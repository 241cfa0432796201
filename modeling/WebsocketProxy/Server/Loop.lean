import WebsocketProxy.Library.Ledger
import WebsocketProxy.Server.Answers

/-!
# The loop of the server

The two handlers of the loop post themselves again at their end, so that each is there once
for as long as the server runs; and every message of a kind that is answered gets its one
answer. Both hold in all runs in which no url makes the constructor of a connection throw:
an exception leaves `processClientMessage` before its end, and the message unanswered.
-/

namespace Websocket

/-- The status a call of a connection has the proxy store in a message. -/
def Callback.status (n : ℕ) : Callback → Option Message.Status
  | .opened msg success =>
      if msg = n then some (if success then .success else .failed) else none
  | .onWsError _ | .onWsData _ | .onWsClosed => none

/-- A failure without a callback answers nothing. -/
theorem fail_answers {ws ws' : Websocket} {ec : ErrorCode} {closeConnection : Bool}
    {calls : List Callback} (h : ws.fail ec none closeConnection = (ws', calls)) :
  ws'.opening = ws.opening ∧ ∀ n, calls.filterMap (Callback.status n) = []
  := by
  obtain ⟨hopening, rfl⟩ := fail_spec h
  use hopening
  intro n
  simp [List.filterMap_cons, Callback.status]

theorem onClose_answers (ws : Websocket) (ec : Option ErrorCode) :
  (ws.onClose ec).1.opening = ws.opening ∧
    ∀ n, (ws.onClose ec).2.filterMap (Callback.status n) = []
  := by
  cases ec with
  | none => exact ⟨rfl, fun _ => rfl⟩
  | some ec =>
      simp only [onClose]
      split
      case isTrue =>
        generalize hfail : ws.fail ec none true = result
        obtain ⟨hopening, hanswers⟩ := fail_answers hfail
        use hopening
        intro n
        rw [List.filterMap_append, hanswers]
        rfl
      case isFalse => exact ⟨rfl, fun _ => rfl⟩

/-- With this completion the coroutine of `open` ends at the stage, and answers with the status. -/
def Completion.Ends (stage : OpenStage) (status : Message.Status) : Completion → Prop
  | resumed (.success _) => stage = .handshake ∧ status = .success
  | resumed (.failure _) | resumed (.hostNameNotSet _) => status = .failed
  | read _ | write .. | close _ => False

theorem Completion.Ends.ne_pending {stage : OpenStage} {status : Message.Status} {c : Completion}
    (h : c.Ends stage status) :
  status ≠ .pending
  := by
  rintro rfl
  cases c with
  | resumed result =>
      cases result with
      | success => cases h.2
      | failure | hostNameNotSet => cases h
  | read | write | close => exact h

/-- A completion ends the opening of a connection and answers its message once, or goes on
with it and answers nothing. -/
theorem complete_answers {ws ws' : Websocket} {c : Completion} {calls : List Callback}
    (h : ws.complete c = some (ws', calls)) :
  (ws'.opening.map Prod.snd = ws.opening.map Prod.snd ∧
    ∀ n, calls.filterMap (Callback.status n) = []) ∨
  ∃ stage msg status, c.Ends stage status ∧ ws.opening = some (stage, msg) ∧ ws'.opening = none ∧
    ∀ n, calls.filterMap (Callback.status n) = if msg = n then [status] else []
  := by
  cases c with
  | resumed result =>
      simp only [Websocket.complete, Option.bind_eq_some_iff] at h
      obtain ⟨⟨stage, msg⟩, hopening, h⟩ := h
      have hfail : ∀ {ec : ErrorCode}, (∀ stage, (Completion.resumed result).Ends stage .failed) →
          some (fail { ws with opening := none } ec (some msg)) = some (ws', calls) →
          ∃ stage msg status, (Completion.resumed result).Ends stage status ∧
            ws.opening = some (stage, msg) ∧ ws'.opening = none ∧
            ∀ n, calls.filterMap (Callback.status n) = if msg = n then [status] else [] := by
        intro ec hends h
        obtain ⟨hopened, rfl⟩ := fail_spec (Option.some.inj h)
        refine ⟨stage, msg, .failed, hends stage, hopening, hopened, ?_⟩
        intro n
        rcases eq_or_ne msg n with rfl | hne
        · simp [List.filterMap_cons, Callback.status]
        · simp [List.filterMap_cons, Callback.status, hne]
      unfold openResume at h
      cases result with
      | success port =>
          cases stage with
          | handshake =>
              right
              obtain ⟨rfl, rfl⟩ := Prod.mk.inj (Option.some.inj h)
              refine ⟨.handshake, msg, .success, ⟨rfl, rfl⟩, hopening, rfl, ?_⟩
              intro n
              rcases eq_or_ne msg n with rfl | hne
              · simp [Callback.status]
              · simp [Callback.status, hne]
          | _ =>
              left
              obtain ⟨rfl, rfl⟩ := Prod.mk.inj (Option.some.inj h)
              simp [hopening]
      | failure ec =>
          cases stage with
          | spawned => cases h
          | _ => exact Or.inr (hfail (fun _ => rfl) h)
      | hostNameNotSet ec =>
          cases stage with
          | connect => exact Or.inr (hfail (fun _ => rfl) h)
          | _ => cases h
  | read result =>
      left
      simp only [Websocket.complete, onRead] at h
      split at h
      case isFalse => cases h
      case isTrue =>
        have h := Option.some.inj h
        split at h
        · split at h
          · obtain ⟨hopening, hcalls⟩ := fail_answers h
            rw [hopening]
            use rfl
          · obtain ⟨rfl, rfl⟩ := Prod.mk.inj h
            simp
        · obtain ⟨rfl, rfl⟩ := Prod.mk.inj h
          constructor
          · split
            · rfl
            · rfl
          · simp [List.filterMap_cons, Callback.status]
  | write i ec =>
      left
      obtain ⟨n, -, h⟩ := Option.map_eq_some_iff.mp h
      simp only [onWrite] at h
      split at h
      · split at h
        · obtain ⟨hopening, hcalls⟩ := fail_answers h
          rw [hopening]
          use rfl
        · obtain ⟨rfl, rfl⟩ := Prod.mk.inj h
          simp
      · obtain ⟨rfl, rfl⟩ := Prod.mk.inj h
        simp
  | close ec =>
      left
      simp only [Websocket.complete] at h
      split at h
      case isFalse => cases h
      case isTrue =>
        have hclose := onClose_answers { ws with closesDone := ws.closesDone + 1 } ec
        rw [Option.some.inj h] at hclose
        rw [hclose.1]
        use rfl, hclose.2

end Websocket

/-- The handler of heartbeats is posted, if the server runs. -/
def Process.postHeartbeat (p : Process) : Process :=
  { p with heartbeatHandlers := p.heartbeatHandlers + if p.run then 1 else 0 }

/-- While the server runs, each of the two handlers of its loop is posted once. -/
structure Process.Scheduled (p : Process) : Prop where
  heartbeat : p.run → p.heartbeatHandlers = 1
  message : p.run → ¬ p.autoShutdown → p.messageHandlers = 1

namespace WebsocketProxy

/-! ### Answers -/

/-- The ledger of the messages taken from the queue: connections that are being opened have
a message to answer. -/
def ledger (px : WebsocketProxy) : Ledger ℕ Message.Status where
  taken := px.taken
  answers := px.stores
  pending r := (px.sockets r).opening.map Prod.snd

theorem ledger_ext {px : WebsocketProxy} {d : Ledger ℕ Message.Status} (htaken : px.taken = d.taken)
    (hanswers : ∀ n, px.stores n = d.answers n)
    (hpending : ∀ r, (px.sockets r).opening.map Prod.snd = d.pending r) :
  px.ledger = d
  := by
  obtain ⟨taken, answers, pending⟩ := d
  obtain rfl : px.stores = answers := funext hanswers
  obtain rfl : (fun r => (px.sockets r).opening.map Prod.snd) = pending := funext hpending
  obtain rfl : px.taken = taken := htaken
  rfl

theorem callback_process (r : ℕ) (px : WebsocketProxy) (call : Websocket.Callback) :
  (callback r px call).toProcess = px.toProcess
  := by
  cases call with
  | onWsError | onWsData | onWsClosed => rfl
  | opened msg success =>
      cases success with
      | false => rfl
      | true => rfl

theorem callback_stores (r : ℕ) (px : WebsocketProxy) (call : Websocket.Callback) (n : ℕ) :
  (callback r px call).stores n = px.stores n ++ (call.status n).toList
  := by
  cases call with
  | onWsError | onWsData | onWsClosed => exact (List.append_nil _).symm
  | opened msg success =>
      have hstores : (callback r px (.opened msg success)).stores = Function.update px.stores msg
          (px.stores msg ++ [if success then .success else .failed]) := by
        cases success with
        | false => rfl
        | true => rfl
      rw [hstores, Websocket.Callback.status]
      rcases eq_or_ne msg n with rfl | hne
      · rw [Function.update_self, if_pos rfl]
        rfl
      · rw [Function.update_of_ne hne.symm, if_neg hne]
        exact (List.append_nil _).symm

/-- The calls of a connection leave the process as it is. -/
theorem foldl_callback_process (r : ℕ) (calls : List Websocket.Callback) (px : WebsocketProxy) :
  (calls.foldl (callback r) px).toProcess = px.toProcess
  := by
  apply List.foldlRecOn (motive := fun px' : WebsocketProxy => px'.toProcess = px.toProcess)
  · rfl
  · intro px' hpx' call _
    rw [callback_process, hpx']

/-- The calls of a connection store the statuses they are about. -/
theorem foldl_callback_stores (r n : ℕ) (calls : List Websocket.Callback) :
  ∀ px : WebsocketProxy, (calls.foldl (callback r) px).stores n
    = px.stores n ++ calls.filterMap (Websocket.Callback.status n)
  := by
  induction calls with
  | nil =>
      intro px
      exact (List.append_nil _).symm
  | cons call calls ih =>
      intro px
      rw [List.foldl_cons, ih, callback_stores, List.append_assoc]
      congr 1
      cases h : call.status n with
      | none => rw [List.filterMap_cons_none h]; rfl
      | some status => rw [List.filterMap_cons_some h]; rfl

theorem callback_sockets (r r' : ℕ) (px : WebsocketProxy) (call : Websocket.Callback) :
  ∃ clients, (callback r px call).sockets r' = { px.sockets r' with clients }
  := by
  cases call with
  | onWsError | onWsData | onWsClosed => exact ⟨(px.sockets r').clients, rfl⟩
  | opened msg success =>
      cases success with
      | false => exact ⟨(px.sockets r').clients, rfl⟩
      | true =>
          have hsockets : (callback r px (.opened msg true)).sockets r'
              = (px.modifySocket r (fun ws => { ws with
                  clients := insert (px.slots msg).pid ws.clients })).sockets r' := rfl
          rw [hsockets]
          rcases eq_or_ne r' r with rfl | hne
          · use insert (px.slots msg).pid (px.sockets r').clients
            rw [Tables.modifySocket_self]
          · use (px.sockets r').clients
            rw [Tables.modifySocket_of_ne hne]

/-- The calls of a connection attach clients to connections at most. -/
theorem foldl_callback_sockets (r r' : ℕ) (calls : List Websocket.Callback) (px : WebsocketProxy) :
  ∃ clients, (calls.foldl (callback r) px).sockets r' = { px.sockets r' with clients }
  := by
  apply List.foldlRecOn (motive := fun px' : WebsocketProxy =>
    ∃ clients, px'.sockets r' = { px.sockets r' with clients })
  · exact ⟨(px.sockets r').clients, rfl⟩
  · rintro px' ⟨clients, hpx'⟩ call -
    obtain ⟨clients', hcall⟩ := callback_sockets r r' px' call
    use clients'
    rw [hcall, hpx']

theorem foldl_callback_opening (r r' : ℕ) (calls : List Websocket.Callback) (px : WebsocketProxy) :
  ((calls.foldl (callback r) px).sockets r').opening = (px.sockets r').opening
  := by
  obtain ⟨clients, hsockets⟩ := foldl_callback_sockets r r' calls px
  rw [hsockets]

/-- A completion ends the opening of a connection and answers its message, or leaves the
ledger as it is. -/
theorem complete_ledger {px px' : WebsocketProxy} {r : ℕ} {c : Websocket.Completion}
    (h : px.runHandler (.complete r c) = some px') :
  px'.ledger = px.ledger ∨ ∃ n status, status ≠ .pending ∧ px.ledger.pending r = some n ∧
    px'.ledger = px.ledger.finish r n status
  := by
  obtain ⟨⟨ws, calls⟩, hcomplete, rfl⟩ := Option.map_eq_some_iff.mp h
  have htaken : (px.perform r (ws, calls)).taken = px.taken :=
    congrArg Process.taken (foldl_callback_process r calls _)
  have hstores : ∀ n, (px.perform r (ws, calls)).stores n
      = px.stores n ++ calls.filterMap (Websocket.Callback.status n) :=
    fun n => foldl_callback_stores r n calls _
  have hopening : ∀ r', ((px.perform r (ws, calls)).sockets r').opening
      = if r' = r then ws.opening else (px.sockets r').opening := by
    intro r'
    have hsame := foldl_callback_opening r r' calls
      { px with toTables := px.modifySocket r (fun _ => ws) }
    apply hsame.trans
    dsimp only
    rcases eq_or_ne r' r with rfl | hne
    · rw [Tables.modifySocket_self, if_pos rfl]
    · rw [Tables.modifySocket_of_ne hne, if_neg hne]
  rcases Websocket.complete_answers hcomplete with ⟨hsame, hanswers⟩ |
    ⟨stage, msg, status, hends, hpending, hended, hanswers⟩
  · left
    apply ledger_ext htaken
    · intro n
      rw [hstores, hanswers, List.append_nil]
      rfl
    · intro r'
      rw [hopening]
      rcases eq_or_ne r' r with rfl | hne
      · rw [if_pos rfl, hsame]
        rfl
      · rw [if_neg hne]
        rfl
  · right
    use msg, status, hends.ne_pending
    constructor
    · apply congrArg (Option.map Prod.snd) hpending
    · apply ledger_ext htaken
      · intro n
        rw [hstores, hanswers]
        rcases eq_or_ne msg n with rfl | hne
        · rw [if_pos rfl]
          simp only [Ledger.finish, ledger, Function.update_self]
        · rw [if_neg hne, List.append_nil]
          simp only [Ledger.finish, ledger, Function.update_of_ne hne.symm]
      · intro r'
        rw [hopening]
        rcases eq_or_ne r' r with rfl | hne
        · rw [if_pos rfl, hended]
          simp only [Ledger.finish, Function.update_self, Option.map_none]
        · rw [if_neg hne]
          simp only [Ledger.finish, ledger, Function.update_of_ne hne]

/-! ### Openings -/

theorem SocketChange.opening {px : WebsocketProxy} {ev : Event} {r : ℕ} {ws : Websocket}
    (h : SocketChange px ev r ws) (hev : ∀ r c, ev ≠ .complete r c)
    (hr : px.opensNew ev = none ∨ r ≠ px.opens) :
  ws.opening = (px.sockets r).opening
  := by
  cases h with
  | same | attach => rfl
  | leave => rw [Websocket.leave_opening]
  | create hr' hreq hnew =>
      rcases hr with hnone | hne
      · rw [hnone] at hreq
        cases hreq
      · exact absurd hr' hne
  | request => rw [foldl_send_frame]
  | complete h => exact absurd h (hev _ _)
  | enter h => exact absurd h (hev _ _)
  | close => rw [Websocket.close_opening]

/-- What is not the completion of an operation, and opens no connection, leaves the openings
as they are. -/
theorem step_opening {px px' : WebsocketProxy} {ev : Event} (hwf : px.WellFormed)
    (h : px.step ev = some px') (hev : ∀ r c, ev ≠ .complete r c) {r : ℕ}
    (hr : px.opensNew ev = none ∨ r ≠ px.opens) :
  (px'.sockets r).opening = (px.sockets r).opening
  := by
  obtain ⟨t, gone, hchange, hdrains⟩ := step_change hwf h
  rw [hdrains.sockets]
  exact (hchange.socket r).opening hev hr

/-! ### Messages -/

theorem processNext_keeps (px : WebsocketProxy) :
  px.processNext.taken = px.taken ∧ px.processNext.stores = px.stores
  := by
  obtain ⟨handlers, closures, readings, autoShutdown, hnext, -⟩ := px.processNext_changes
  rw [hnext]
  exact ⟨rfl, rfl⟩

/-- The handler of messages, when the handling of the message does not throw. -/
theorem processClientMessage_some {px px' : WebsocketProxy} {m : Message}
    (h : px.step (.processClientMessage (some m)) = some px')
    (hthrew : ((px.taking m).handleClientMessage px.taken).2 = false) :
  px' = { ((px.taking m).handleClientMessage px.taken).1 with
    toTables := ((px.taking m).handleClientMessage px.taken).1.removeClosedSockets }.processNext
  := by
  rcases processClientMessage_cases (runHandler_of_step h) with ⟨hthrew', -⟩ | ⟨-, hpx'⟩
  · rw [hthrew] at hthrew'
    cases hthrew'
  · exact hpx'

/-- The url of no request makes the constructor of a connection throw. -/
def PortsParse (px : WebsocketProxy) (ev : Event) : Prop :=
  ∀ req ∈ px.opensNew ev, (Websocket.splitHost (Websocket.splitUrl req.url).2.1).isSome

instance (px : WebsocketProxy) (ev : Event) : Decidable (px.PortsParse ev) :=
  inferInstanceAs (Decidable (∀ req ∈ px.opensNew ev, _))

/-- When the url of no request makes the constructor throw, handling a message does not
throw. -/
theorem handleClientMessage_unthrown {px : WebsocketProxy} {m : Message}
    (hports : px.PortsParse (.processClientMessage (some m))) :
  ((px.taking m).handleClientMessage px.taken).2 = false ∧ ∃ answers,
    (px.taking m).Handles px.taken answers ((px.taking m).handleClientMessage px.taken).1
  := by
  rcases handleClientMessage_handles px m with ⟨-, hthrew, answers, hhandles, -⟩ |
    ⟨req, clients, hreq, hopen⟩
  · use hthrew, answers
  · obtain ⟨hhandles, -⟩ := openNewWs_handles ((px.taking m).refreshed clients) px.taken req
    rw [hopen]
    constructor
    · obtain ⟨p, hp⟩ := Option.isSome_iff_exists.mp (hports req hreq)
      simp only [openNewWs, Websocket.new, hp, Option.map_some]
    · use [], hhandles.process
      apply hhandles.stores

/-- What the handling of a message leaves is what it is after the step, as far as it is about
messages and connections. -/
theorem message_handled {px px' : WebsocketProxy} {m : Message}
    (h : px.step (.processClientMessage (some m)) = some px') :
  px'.taken = ((px.taking m).handleClientMessage px.taken).1.taken ∧
    px'.stores = ((px.taking m).handleClientMessage px.taken).1.stores ∧
    px'.sockets = ((px.taking m).handleClientMessage px.taken).1.sockets
  := by
  rcases processClientMessage_cases (runHandler_of_step h) with ⟨-, rfl⟩ | ⟨-, rfl⟩
  · unfold caught
    split
    · exact ⟨rfl, rfl, rfl⟩
    · exact ⟨rfl, rfl, rfl⟩
  · obtain ⟨htaken, hstores⟩ := processNext_keeps
      { ((px.taking m).handleClientMessage px.taken).1 with
        toTables := ((px.taking m).handleClientMessage px.taken).1.removeClosedSockets }
    use htaken, hstores
    rw [processNext_toTables]
    apply Tables.removeClosedSockets_sockets

theorem openNewWs_threw {px : WebsocketProxy} {msg : ℕ} {req : WsOpen}
    (h : (px.openNewWs msg req).2 = true) :
  (px.openNewWs msg req).1.sockets = px.sockets ∧
    ¬ (Websocket.splitHost (Websocket.splitUrl req.url).2.1).isSome
  := by
  rcases em (Websocket.splitHost (Websocket.splitUrl req.url).2.1).isSome with hports | hports
  · obtain ⟨p, hp⟩ := Option.isSome_iff_exists.mp hports
    simp only [openNewWs, Websocket.new, hp, Option.map_some] at h
    cases h
  · refine ⟨?_, hports⟩
    simp only [openNewWs, Websocket.new, Option.not_isSome_iff_eq_none.mp hports, Option.map_none]
    rfl

/-- A message that is taken is taken into the ledger: answered, or handed to the connection that
is opened for it. It has an answer if it is of a kind that is answered, unless the constructor
of a connection throws. -/
theorem message_ledger {px px' : WebsocketProxy} {m : Message} (hwf : px.WellFormed)
    (h : px.step (.processClientMessage (some m)) = some px') :
  (∃ answers, px'.ledger = px.ledger.take answers ∧
    (px.PortsParse (.processClientMessage (some m)) → m.data.Answered →
      ∃ status, status ≠ .pending ∧ answers = [status])) ∨
  (px'.ledger = px.ledger.defer px.opens ∧ px.ledger.pending px.opens = none ∧
    ∃ req, m.data = .openWs req)
  := by
  have hsame := fun {r} => step_opening (r := r) hwf h (fun r c => by rintro ⟨⟩)
  obtain ⟨htaken, hstores, hsockets⟩ := message_handled h
  rcases handleClientMessage_handles px m with ⟨hnone, -, answers, hhandles, hanswered⟩ |
    ⟨req, clients, hreq, hopen⟩
  · left
    use answers
    constructor
    · apply ledger_ext (htaken.trans (congrArg Process.taken hhandles.process))
      · intro n
        rw [hstores, hhandles.stores]
        rfl
      · intro r
        rw [hsame (Or.inl hnone)]
        rfl
    · exact fun _ => hanswered
  · obtain ⟨hhandles, hopening⟩ := openNewWs_handles ((px.taking m).refreshed clients) px.taken req
    rw [hopen] at htaken hstores hsockets
    have htaken : px'.taken = px.taken + 1 :=
      htaken.trans (congrArg Process.taken hhandles.process)
    have hstores : px'.stores = px.stores := by
      rw [hstores, hhandles.stores, List.append_nil, Function.update_eq_self]
      rfl
    cases hthrew : (((px.taking m).refreshed clients).openNewWs px.taken req).2 with
    | true =>
        left
        use []
        obtain ⟨hkeeps, hports⟩ := openNewWs_threw hthrew
        constructor
        · apply ledger_ext htaken
          · intro n
            rw [hstores]
            simp only [Ledger.take, ledger, List.append_nil, Function.update_eq_self]
          · intro r
            rw [hsockets, hkeeps]
            rfl
        · intro hparse
          exact absurd (hparse req hreq) hports
    | false =>
        right
        constructor
        · apply ledger_ext htaken
          · intro n
            rw [hstores]
            rfl
          · intro r
            rcases eq_or_ne r px.opens with rfl | hne
            · have hopening : ((((px.taking m).refreshed clients).openNewWs px.taken req).1.sockets
                  px.opens).opening = some (.spawned, px.taken) := hopening hthrew
              rw [hsockets, hopening]
              simp only [Ledger.defer, ledger, Function.update_self, Option.map_some]
            · rw [hsame (Or.inr hne)]
              simp only [Ledger.defer, ledger, Function.update_of_ne hne]
        · constructor
          · have hblank := hwf.blank px.opens (Nat.le_refl _)
            simp only [ledger, hblank]
            rfl
          · exact ⟨req, (opensNew_message.mp hreq).1⟩

/-! ### Other events -/

theorem foldl_checkClient_keeps (now : UInt64) (entries : List (Σ _ : UInt64, ClientInfo))
    (px : WebsocketProxy) :
  (entries.foldl (checkClient now) px).toProcess = px.toProcess ∧
    (entries.foldl (checkClient now) px).stores = px.stores
  := by
  apply List.foldlRecOn (motive := fun px' : WebsocketProxy =>
    px'.toProcess = px.toProcess ∧ px'.stores = px.stores)
  · exact ⟨rfl, rfl⟩
  · rintro px' ⟨hprocess, hstores⟩ kvp -
    unfold checkClient
    split
    · obtain ⟨hprocess', hstores'⟩ := unregisterClientAt_handles px' kvp.1 0
      rw [List.append_nil, Function.update_eq_self] at hstores'
      exact ⟨hprocess'.trans hprocess, hstores'.trans hstores⟩
    · exact ⟨hprocess, hstores⟩

theorem sendHeartbeat_keeps (px : WebsocketProxy) (now : UInt64) :
  (px.sendHeartbeat now).2.toProcess = px.toProcess ∧
    (px.sendHeartbeat now).2.stores = px.stores
  := by
  rcases sendHeartbeat_cases px now with h | h
  · rw [h]
    exact ⟨rfl, rfl⟩
  · rw [h]
    exact ⟨rfl, rfl⟩

theorem checkHeartbeats_keeps (px : WebsocketProxy) :
  px.checkHeartbeats.2.toProcess = px.toProcess ∧ px.checkHeartbeats.2.stores = px.stores
  := by
  unfold checkHeartbeats
  split
  · exact ⟨rfl, rfl⟩
  · simp only [getTimestamp]
    obtain ⟨hprocess, hstores⟩ := foldl_checkClient_keeps (px.clock px.readings)
      (({ px with readings := px.readings + 1 }.sendHeartbeat
        (px.clock px.readings)).2.clients.entries)
      ({ px with readings := px.readings + 1 }.sendHeartbeat (px.clock px.readings)).2
    obtain ⟨hprocess', hstores'⟩ := sendHeartbeat_keeps { px with readings := px.readings + 1 }
      (px.clock px.readings)
    exact ⟨hprocess.trans hprocess', hstores.trans hstores'⟩

/-- The handler of heartbeats posts itself again, while the server runs. -/
theorem startHeartbeat_keeps (px : WebsocketProxy) :
  px.startHeartbeat.toProcess = px.toProcess.postHeartbeat ∧
    px.startHeartbeat.stores = px.stores
  := by
  obtain ⟨hprocess, hstores⟩ := checkHeartbeats_keeps px
  simp only [startHeartbeat]
  rw [← hprocess, Process.postHeartbeat]
  split
  · exact ⟨rfl, hstores⟩
  · exact ⟨rfl, hstores⟩

theorem announce_keeps (px : WebsocketProxy) :
  px.announce.toProcess = { px.toProcess with startup := false }.postHeartbeat ∧
    px.announce.stores = px.stores
  := by
  simp only [announce, getTimestamp]
  obtain ⟨hprocess, hstores⟩ := sendHeartbeat_keeps { px with readings := px.readings + 1 }
    (px.clock px.readings)
  obtain ⟨hprocess', hstores'⟩ := startHeartbeat_keeps
    { ({ px with readings := px.readings + 1 }.sendHeartbeat (px.clock px.readings)).2 with
      startup := false }
  constructor
  · apply hprocess'.trans
    exact congrArg (fun p : Process => { p with startup := false }.postHeartbeat) hprocess
  · apply hstores'.trans hstores

/-- What happens in a step that takes no message. -/
structure Idle (px px' : WebsocketProxy) : Prop where
  pid : px'.pid = px.pid
  taken : px'.taken = px.taken
  scheduled : px.Scheduled → px'.Scheduled

/-- A completion is idle. -/
theorem complete_idle {px px' : WebsocketProxy} {r : ℕ} {c : Websocket.Completion}
    (h : px.runHandler (.complete r c) = some px') :
  px.Idle px'
  := by
  obtain ⟨⟨ws, calls⟩, -, rfl⟩ := Option.map_eq_some_iff.mp h
  have hprocess : (px.perform r (ws, calls)).toProcess = px.toProcess :=
    foldl_callback_process r calls _
  constructor
  · apply congrArg Process.pid hprocess
  · apply congrArg Process.taken hprocess
  · intro hscheduled
    rw [hprocess]
    exact hscheduled

theorem processNext_scheduled {px : WebsocketProxy} (hheartbeat : px.run → px.heartbeatHandlers = 1)
    (hmessage : px.run → ¬ px.autoShutdown → px.messageHandlers = 0) :
  px.processNext.Scheduled
  := by
  simp only [processNext]
  split
  case isTrue hrun =>
    split
    · split
      · exact ⟨hheartbeat, fun _ h => absurd rfl h⟩
      · exact ⟨hheartbeat, fun hrun h => congrArg (· + 1) (hmessage hrun h)⟩
    · exact ⟨hheartbeat, fun hrun h => congrArg (· + 1) (hmessage hrun h)⟩
  case isFalse hrun => exact ⟨fun h => absurd h hrun, fun h => absurd h hrun⟩

theorem processNext_pid (px : WebsocketProxy) :
  px.processNext.pid = px.pid
  := by
  obtain ⟨handlers, closures, readings, autoShutdown, hnext, -⟩ := px.processNext_changes
  rw [hnext]

theorem postHeartbeat_idle {px px' : WebsocketProxy} {startup : Bool}
    (h : px'.toProcess = { px.toProcess with
      startup, heartbeatHandlers := px.heartbeatHandlers - 1 }.postHeartbeat) :
  px.Idle px'
  := by
  constructor
  · rw [h]
    rfl
  · rw [h]
    rfl
  · intro hscheduled
    rw [h]
    constructor
    · intro hrun
      have hrun : px.run = true := hrun
      simp only [Process.postHeartbeat, hscheduled.heartbeat hrun, hrun, if_true]
    · apply hscheduled.message

/-- A step that takes no message is idle. -/
theorem step_idle {px px' : WebsocketProxy} {ev : Event} (h : px.step ev = some px')
    (hmessage : ∀ m, ev ≠ .processClientMessage (some m)) :
  px.Idle px'
  := by
  have hrun := runHandler_of_step h
  cases ran_of_runHandler hrun with
  | @handled m | @threw m => exact absurd rfl (hmessage m)
  | noMessage =>
      constructor
      · apply processNext_pid
      · apply (processNext_keeps _).1
      · intro hscheduled
        apply processNext_scheduled
        · apply hscheduled.heartbeat
        · exact fun hrun hauto => congrArg (· - 1) (hscheduled.message hrun hauto)
  | announce => apply postHeartbeat_idle (announce_keeps _).1
  | startHeartbeat => apply postHeartbeat_idle (startHeartbeat_keeps _).1
  | complete => apply complete_idle hrun
  | signal | stopClosure | timerHandler =>
      exact ⟨rfl, rfl, fun hscheduled => ⟨hscheduled.heartbeat, hscheduled.message⟩⟩
  | shutdownClosure =>
      exact ⟨rfl, rfl, fun _ => ⟨fun hrun => absurd hrun Bool.false_ne_true,
        fun hrun => absurd hrun Bool.false_ne_true⟩⟩
  | slotReused | rehash => exact ⟨rfl, rfl, id⟩

/-- A step that is neither a message nor a completion stores nothing. -/
theorem step_stores {px px' : WebsocketProxy} {ev : Event} (h : px.step ev = some px')
    (hmessage : ∀ m, ev ≠ .processClientMessage (some m))
    (hcomplete : ∀ r c, ev ≠ .complete r c) :
  px'.stores = px.stores ∧ px.opensNew ev = none
  := by
  cases ran_of_step h with
  | @handled m | @threw m => exact absurd rfl (hmessage m)
  | noMessage => exact ⟨(processNext_keeps _).2, rfl⟩
  | announce => exact ⟨(announce_keeps _).2, rfl⟩
  | startHeartbeat => exact ⟨(startHeartbeat_keeps _).2, rfl⟩
  | @complete r c => exact absurd rfl (hcomplete r c)
  | signal | stopClosure | timerHandler | shutdownClosure | slotReused | rehash =>
      exact ⟨rfl, rfl⟩

/-- A step that is neither a message nor a completion leaves the ledger as it is. -/
theorem step_ledger {px px' : WebsocketProxy} {ev : Event} (hwf : px.WellFormed)
    (h : px.step ev = some px') (hmessage : ∀ m, ev ≠ .processClientMessage (some m))
    (hcomplete : ∀ r c, ev ≠ .complete r c) :
  px'.ledger = px.ledger
  := by
  obtain ⟨hstores, hnone⟩ := step_stores h hmessage hcomplete
  apply ledger_ext (step_idle h hmessage).taken
  · intro n
    rw [hstores]
    rfl
  · intro r
    rw [step_opening hwf h hcomplete (Or.inl hnone)]
    rfl

/-- The answers of a message stay. -/
theorem step_stores_append {px px' : WebsocketProxy} {ev : Event} (hwf : px.WellFormed)
    (h : px.step ev = some px') (n : ℕ) :
  ∃ news, px'.stores n = px.stores n ++ news
  := by
  have hledger : px'.stores n = px'.ledger.answers n := rfl
  rw [hledger]
  rcases em (∃ m, ev = .processClientMessage (some m)) with ⟨m, rfl⟩ | hmessage
  · rcases message_ledger hwf h with ⟨answers, hledger, -⟩ | ⟨hledger, -⟩
    · rw [hledger]
      apply px.ledger.take_answers answers n
    · rw [hledger]
      exact ⟨[], (List.append_nil _).symm⟩
  · rcases em (∃ r c, ev = .complete r c) with ⟨r, c, rfl⟩ | hcomplete
    · rcases complete_ledger (runHandler_of_step h) with hledger | ⟨m, status, -, -, hledger⟩
      · rw [hledger]
        exact ⟨[], (List.append_nil _).symm⟩
      · rw [hledger]
        apply px.ledger.finish_answers r m status n
    · rw [step_ledger hwf h (fun m hm => hmessage ⟨m, hm⟩) (fun r c hc => hcomplete ⟨r, c, hc⟩)]
      exact ⟨[], (List.append_nil _).symm⟩

/-- A step keeps the ledger valid. -/
theorem step_valid {px px' : WebsocketProxy} {ev : Event} (hwf : px.WellFormed)
    (h : px.step ev = some px') (hvalid : px.ledger.Valid) :
  px'.ledger.Valid
  := by
  rcases em (∃ m, ev = .processClientMessage (some m)) with ⟨m, rfl⟩ | hmessage
  · rcases message_ledger hwf h with ⟨answers, hledger, -⟩ | ⟨hledger, -⟩
    · rw [hledger]
      apply hvalid.take answers
    · rw [hledger]
      apply hvalid.defer px.opens
  · rcases em (∃ r c, ev = .complete r c) with ⟨r, c, rfl⟩ | hcomplete
    · rcases complete_ledger (runHandler_of_step h) with hledger | ⟨n, status, -, hpending, hledger⟩
      · rw [hledger]
        exact hvalid
      · rw [hledger]
        apply hvalid.finish hpending status
    · rw [step_ledger hwf h (fun m hm => hmessage ⟨m, hm⟩) (fun r c hc => hcomplete ⟨r, c, hc⟩)]
      exact hvalid

/-- Every opening is for a message of its own, which was taken and is not answered. -/
theorem reachable_valid {guard : WebsocketProxy → Event → Prop} {px : WebsocketProxy}
    (h : system.ReachableUnder guard px) :
  px.ledger.Valid
  := by
  apply h.invariant (I := fun px => px.ledger.Valid)
  · rintro _ ⟨pid, clock, rfl⟩
    constructor
    · rintro r n ⟨⟩
    · exact fun _ => rfl
    · rintro r r' n ⟨⟩
    · exact fun _ => rfl
  · intro px ev px' hreachable hvalid _ hstep
    apply step_valid (reachable_wellFormed hreachable) hstep hvalid

/-- A step that takes a message and does not throw keeps the handlers of the loop posted. -/
theorem message_scheduled {px px' : WebsocketProxy} {m : Message}
    (hports : px.PortsParse (.processClientMessage (some m)))
    (h : px.step (.processClientMessage (some m)) = some px') (hscheduled : px.Scheduled) :
  px'.Scheduled
  := by
  obtain ⟨hthrew, answers, hhandles⟩ := handleClientMessage_unthrown hports
  obtain rfl := processClientMessage_some h hthrew
  have hprocess := hhandles.process
  apply processNext_scheduled
  · intro hrun
    have hrun : px.run := (congrArg Process.run hprocess).symm.trans hrun
    exact (congrArg Process.heartbeatHandlers hprocess).trans (hscheduled.heartbeat hrun)
  · intro hrun hauto
    have hrun : px.run := (congrArg Process.run hprocess).symm.trans hrun
    have hauto : ¬ px.autoShutdown :=
      fun h => hauto ((congrArg Process.autoShutdown hprocess).trans h)
    apply (congrArg Process.messageHandlers hprocess).trans
    apply congrArg (· - 1) (hscheduled.message hrun hauto)

/-! ### Runs -/

/-- The message taken in an event. -/
def Event.taken : Event → Option Message
  | .processClientMessage msg => msg
  | _ => none

/-- The messages taken in a run, in the order in which they are numbered. -/
def messages (es : List Event) : List Message := es.filterMap Event.taken

theorem messages_snoc (es : List Event) (ev : Event) :
  messages (es ++ [ev]) = messages es ++ ev.taken.toList
  := by
  rw [messages, List.filterMap_append]
  cases h : ev.taken with
  | none => rw [List.filterMap_cons_none h]; rfl
  | some m => rw [List.filterMap_cons_some h]; rfl

/-- The `n`-th message of a run, if it is of a kind that is answered, has one answer that
does not leave it pending, or the connection opened for it is still being opened. -/
def Settled (px : WebsocketProxy) (n : ℕ) (m : Message) : Prop :=
  (∃ status, status ≠ .pending ∧ px.stores n = [status]) ∨
    (px.stores n = [] ∧ (∃ req, m.data = .openWs req) ∧
      ∃ r stage, (px.sockets r).opening = some (stage, n))

end WebsocketProxy

/-- The ledger of a run that took the messages `ms`: those of kinds that are answered are
settled, and those with an opening to answer them are `OpenWs`. -/
structure Accounts (d : Ledger ℕ Message.Status) (ms : List Message) : Prop where
  valid : d.Valid
  taken : d.taken = ms.length
  opens : ∀ {r n}, d.pending r = some n → ∃ m req, ms[n]? = some m ∧ m.data = .openWs req
  settled : ∀ {n m}, ms[n]? = some m → m.data.Answered → d.Settled (· ≠ .pending) n

namespace Accounts

variable {d : Ledger ℕ Message.Status} {ms : List Message}

theorem getElem?_append {m : Message} {n : ℕ} {m' : Message}
    (h : (ms ++ [m])[n]? = some m') :
  ms[n]? = some m' ∧ n < ms.length ∨ n = ms.length ∧ m' = m
  := by
  rcases Nat.lt_or_ge n ms.length with hn | hn
  · left
    rw [List.getElem?_append_left hn] at h
    use h, hn
  · right
    rw [List.getElem?_append_right hn, List.getElem?_singleton] at h
    split at h
    case isTrue heq =>
      use (by omega)
      exact (Option.some.inj h).symm
    case isFalse => cases h

/-- A message is answered when it is taken. -/
theorem take (hd : Accounts d ms) {m : Message} {answers : List Message.Status}
    (hm : m.data.Answered → ∃ status, status ≠ .pending ∧ answers = [status]) :
  Accounts (d.take answers) (ms ++ [m])
  := by
  constructor
  · apply hd.valid.take answers
  · rw [List.length_append, ← hd.taken]
    rfl
  · intro r n hpending
    obtain ⟨m', req, hm', hreq⟩ := hd.opens hpending
    use m', req
    rw [List.getElem?_append_left (hd.taken ▸ hd.valid.lt_taken hpending)]
    use hm'
  · intro n m' hm' hanswered
    rcases getElem?_append hm' with ⟨hm', hn⟩ | ⟨rfl, rfl⟩
    · exact (hd.settled hm' hanswered).take (hd.taken.symm ▸ hn) answers
    · obtain ⟨status, hstatus, rfl⟩ := hm hanswered
      rw [← hd.taken]
      exact hd.valid.settled_take hstatus

/-- A connection is opened for a message when it is taken. -/
theorem defer (hd : Accounts d ms) {m : Message} {r : ℕ} (hr : d.pending r = none)
    (hm : ∃ req, m.data = .openWs req) :
  Accounts (d.defer r) (ms ++ [m])
  := by
  constructor
  · apply hd.valid.defer r
  · rw [List.length_append, ← hd.taken]
    rfl
  · intro r' n hpending
    rcases eq_or_ne r' r with rfl | hne
    · simp only [Ledger.defer, Function.update_self, Option.some.injEq] at hpending
      obtain ⟨req, hreq⟩ := hm
      use m, req
      rw [← hpending, hd.taken, List.getElem?_concat_length]
      use rfl
    · simp only [Ledger.defer, Function.update_of_ne hne] at hpending
      obtain ⟨m', req, hm', hreq⟩ := hd.opens hpending
      use m', req
      rw [List.getElem?_append_left (hd.taken ▸ hd.valid.lt_taken hpending)]
      use hm'
  · intro n m' hm' hanswered
    rcases getElem?_append hm' with ⟨hm', hn⟩ | ⟨rfl, rfl⟩
    · exact (hd.settled hm' hanswered).defer hr
    · rw [← hd.taken]
      apply hd.valid.settled_defer _ r

/-- An opening ends, and its message is answered. -/
theorem finish (hd : Accounts d ms) {r n : ℕ} (hr : d.pending r = some n)
    {status : Message.Status} (hstatus : status ≠ .pending) :
  Accounts (d.finish r n status) ms
  := by
  constructor
  · apply hd.valid.finish hr status
  · apply hd.taken
  · intro r' n' hpending
    rcases eq_or_ne r' r with rfl | hne
    · simp only [Ledger.finish, Function.update_self] at hpending
      cases hpending
    · simp only [Ledger.finish, Function.update_of_ne hne] at hpending
      apply hd.opens hpending
  · intro n' m hm hanswered
    exact (hd.settled hm hanswered).finish hd.valid hr hstatus

end Accounts

namespace WebsocketProxy

theorem start_accounts (pid : UInt64) (clock : ℕ → UInt64) :
  Accounts (start pid clock).ledger []
  := by
  have hreachable : system.Reachable (start pid clock) := .initial ⟨pid, clock, rfl⟩
  constructor
  · apply reachable_valid hreachable
  · rfl
  · rintro r n ⟨⟩
  · rintro n m ⟨⟩

theorem taken_eq_none {ev : Event} (hmessage : ∀ m, ev ≠ .processClientMessage (some m)) :
  ev.taken = none
  := by
  cases ev with
  | processClientMessage msg =>
      cases msg with
      | none => rfl
      | some m => exact absurd rfl (hmessage m)
  | _ => rfl

/-- A step in which no constructor throws keeps the handlers of the loop posted, and settles
the message it takes. -/
theorem step_loop {px px' : WebsocketProxy} {ms : List Message} {ev : Event}
    (hwf : px.WellFormed) (hports : px.PortsParse ev) (h : px.step ev = some px')
    (hscheduled : px.Scheduled) (haccounts : Accounts px.ledger ms) :
  px'.Scheduled ∧ Accounts px'.ledger (ms ++ ev.taken.toList)
  := by
  rcases em (∃ m, ev = .processClientMessage (some m)) with ⟨m, rfl⟩ | hmessage
  · use message_scheduled hports h hscheduled
    rcases message_ledger hwf h with ⟨answers, hledger, hanswered⟩ | ⟨hledger, hpending, hreq⟩
    · rw [hledger]
      apply haccounts.take (hanswered hports)
    · rw [hledger]
      apply haccounts.defer hpending hreq
  · have hmessage : ∀ m, ev ≠ .processClientMessage (some m) := fun m hm => hmessage ⟨m, hm⟩
    rw [taken_eq_none hmessage, Option.toList_none, List.append_nil]
    use (step_idle h hmessage).scheduled hscheduled
    rcases em (∃ r c, ev = .complete r c) with ⟨r, c, rfl⟩ | hcomplete
    · rcases complete_ledger (runHandler_of_step h) with hledger |
        ⟨n, status, hstatus, hpending, hledger⟩
      · rw [hledger]
        exact haccounts
      · rw [hledger]
        apply haccounts.finish hpending hstatus
    · rw [step_ledger hwf h hmessage (fun r c hc => hcomplete ⟨r, c, hc⟩)]
      exact haccounts

/-- In every run in which no constructor throws, the two handlers of the loop are posted
once each while the server runs and has not decided to shut down, and every message taken
that is to be answered is settled. -/
theorem loop_survives {pid : UInt64} {clock : ℕ → UInt64} {es : List Event}
    {px : WebsocketProxy} (h : system.RunUnder PortsParse (start pid clock) es px) :
  (px.run → ¬ px.autoShutdown → px.messageHandlers = 1 ∧ px.heartbeatHandlers = 1) ∧
    ∀ n m, (messages es)[n]? = some m → m.data.Answered → px.Settled n m
  := by
  have hloop : px.Scheduled ∧ Accounts px.ledger (messages es) := by
    induction h with
    | nil => exact ⟨⟨fun _ => rfl, fun _ _ => rfl⟩, start_accounts pid clock⟩
    | @snoc es px ev px' hrun hports hstep ih =>
        have hwf := reachable_wellFormed ⟨_, _, ⟨pid, clock, rfl⟩, hrun⟩
        rw [messages_snoc]
        apply step_loop hwf hports hstep ih.1 ih.2
  obtain ⟨hscheduled, haccounts⟩ := hloop
  constructor
  · intro hrun hauto
    use hscheduled.message hrun hauto
    apply hscheduled.heartbeat hrun
  · intro n m hm hanswered
    rcases haccounts.settled hm hanswered with hstatus | ⟨hstores, r, hpending⟩
    · apply Or.inl hstatus
    · right
      use hstores
      obtain ⟨⟨stage, n'⟩, hopening, rfl⟩ := Option.map_eq_some_iff.mp hpending
      obtain ⟨m', req, hm', hreq⟩ := haccounts.opens hpending
      obtain rfl : m' = m := Option.some.inj (hm'.symm.trans hm)
      use ⟨req, hreq⟩, r, stage

/-- A client opens a connection at a port that is no number. -/
def badPort : List Event := [.register 1, .openWs 1 (toBytes "wss://h:x") []]

/-- A client opens a connection, which fails, and another. -/
def goodPorts : List Event :=
  [.register 1, .openWs 1 (toBytes "wss://h:81") [], .complete 0 (.resumed (.success 0)),
    .complete 0 (.resumed (.failure ⟨.other, []⟩)), .openWs 1 (toBytes "h") []]

/-- The server goes on after this run, and all its messages are settled. -/
theorem loop_survives_goodPorts :
  ∃ px, system.RunUnder PortsParse (start 7 fun _ => 1) goodPorts px ∧
    px.messageHandlers = 1 ∧ px.heartbeatHandlers = 1 ∧
    (messages goodPorts).length = 3 ∧ ∀ n m, (messages goodPorts)[n]? = some m → px.Settled n m
  := by
  have hexec : ∃ px ∈ system.execUnder PortsParse (start 7 fun _ => 1) goodPorts,
      px.run = true ∧ px.autoShutdown = false := by
    decide +kernel
  obtain ⟨px, hrun, hpx, hauto⟩ := TransitionSystem.exists_runUnder hexec
  obtain ⟨hloop, hsettled⟩ := loop_survives hrun
  obtain ⟨hmessage, hheartbeat⟩ := hloop hpx (by simp [hauto])
  have hanswered : ∀ m ∈ messages goodPorts, m.data.Answered := by
    intro m hm
    simp only [messages, goodPorts, List.filterMap_cons, Event.taken, Event.register,
      Event.openWs, Event.message, List.filterMap_nil, List.mem_cons, List.not_mem_nil,
      or_false] at hm
    rcases hm with rfl | rfl | rfl
    · trivial
    · trivial
    · trivial
  use px, hrun, hmessage, hheartbeat, rfl
  intro n m hm
  apply hsettled n m hm (hanswered m (List.mem_of_getElem? hm))

/-- A port that is no number ends the handling of messages, while the server runs, and
leaves the message unanswered. -/
theorem not_loop_survives :
  ∃ px, system.Run (start 7 fun _ => 1) badPort px ∧ px.run = true ∧ px.autoShutdown = false ∧
    px.messageHandlers = 0 ∧
    ∃ m, (messages badPort)[1]? = some m ∧ m.data.Answered ∧ ¬ px.Settled 1 m
  := by
  have hexec : ∃ px ∈ system.exec (start 7 fun _ => 1) badPort,
      px.run = true ∧ px.autoShutdown = false ∧ px.messageHandlers = 0 ∧ px.stores 1 = [] ∧
      px.opens = 1 ∧ (px.sockets 0).opening = none := by
    decide +kernel
  obtain ⟨px, hrun, hpx, hauto, hposted, hstores, hopens, hopening⟩ :=
    TransitionSystem.exists_runUnder hexec
  have hwf := reachable_wellFormed ⟨_, _, ⟨7, _, rfl⟩, hrun⟩
  refine ⟨px, hrun, hpx, hauto, hposted, _, rfl, trivial, ?_⟩
  rintro (⟨status, -, hanswer⟩ | ⟨-, -, r, stage, hr⟩)
  · rw [hstores] at hanswer
    cases hanswer
  · cases r with
    | zero =>
        rw [hopening] at hr
        cases hr
    | succ r =>
        rw [hwf.blank (r + 1) (by omega)] at hr
        cases hr

end WebsocketProxy
