import WebsocketProxy.Library.Observed
import WebsocketProxy.Server.Attaching
import WebsocketProxy.Session.Basic

/-!
# What an asynchronous open reports

`openWebSocketAsync` does not wait for the answer, so all that a client hears of its request is
what its worker reads. An open that succeeds is announced, to the process id in the slot of the
request. One that fails is broadcast as an error and as a close, both with an id that no client
has in `websockets_`; or not at all, if the sender is not registered. So an open is reported if
its opening succeeds at every stage (`async_open_reported`), and otherwise it is not.
-/

namespace WebsocketProxyClient

/-- An observation reports what became of a connection. -/
def Observation.Reports : Observation → Prop
  | callback (.onWebsocketOpened _) | callback (.onWebsocketClosed _)
  | callback (.onWebsocketError ..) => True
  | read .. | callback .onWebsocketProxyServerDisconnected | callback (.onWebsocketData ..)
  | returned _ => False

instance (ob : Observation) : Decidable ob.Reports :=
  match ob with
  | .callback (.onWebsocketOpened _) | .callback (.onWebsocketClosed _)
  | .callback (.onWebsocketError ..) => inferInstanceAs (Decidable True)
  | .read .. | .callback .onWebsocketProxyServerDisconnected | .callback (.onWebsocketData ..)
  | .returned _ => inferInstanceAs (Decidable False)

/-- A client that reads that a connection was opened for it calls back. -/
theorem handleResult_opened (c : WebsocketProxyClient) {msg : Message} {m : WsOpen} (now : UInt64)
    (hmsg : msg.data = .openWs m) (hpid : m.clientPid = c.pid) :
  (c.handleResult msg.pid now msg).trace
    = c.trace ++ [.read msg.pid msg, .callback (.onWebsocketOpened m.id)]
  := by
  have hpid : m.clientPid = (c.noteMessage msg.pid now msg).pid := hpid
  simp only [handleResult, ne_eq, not_true_eq_false, if_false, handleMessage, hmsg, handleWsOpen,
    if_pos hpid]
  simp only [callback, noteMessage, List.append_assoc, List.cons_append, List.nil_append]

end WebsocketProxyClient

namespace Websocket

/-- The coroutine of `open` goes on. -/
def OpenResult.Succeeds : OpenResult → Prop
  | success _ => True
  | failure _ | hostNameNotSet _ => False

instance (result : OpenResult) : Decidable result.Succeeds :=
  match result with
  | .success _ => inferInstanceAs (Decidable True)
  | .failure _ | .hostNameNotSet _ => inferInstanceAs (Decidable False)

end Websocket

namespace Session

open WebsocketProxyClient (Observation Step)

/-- An answer of a request: what the server had published before and after the step that gave it,
and the id in the slot. -/
structure Answer where
  before : ℕ
  after : ℕ
  id : UInt64
deriving DecidableEq

/-- What is noted of a request and the client that sent it. -/
structure Report where
  /-- The last answer of the request. -/
  answer : Option Answer := none
  /-- The messages that the client read, by their number in the server queue, each with what was
  seen of the client when it did. -/
  heard : List (ℕ × List Observation) := []

/-- The message that the client `p` reads in a step, with what is seen of the client. -/
def hearing (p : UInt64) (s : Session) (ev : Event) (s' : Session) : List (ℕ × List Observation) :=
  match ev with
  | .client q (.read (some _)) =>
      if q = p then [((s.clients p).serverQueueIndex, s.seen s' p)] else []
  | _ => []

/-- What is noted after a step. -/
def Report.after (p : UInt64) (n : ℕ) (s : Session) (ev : Event) (s' : Session) (report : Report) :
    Report where
  answer :=
    match ev with
    | .server _ =>
        if s.server.answersIn s'.server n = [] then report.answer
        else
          some ⟨s.server.serverQueue.length, s'.server.serverQueue.length,
            (s'.server.slots n).wsOpen.id⟩
    | .client .. => report.answer
  heard := report.heard ++ s.hearing p ev s'

/-- Sessions, observed for what becomes of message `n` and for what the client `p` reads. -/
def reporting (p : UInt64) (n : ℕ) : TransitionSystem (Observed Session Report) Event :=
  system.observed {} (Report.after p n)

/-- The sender of message `n` is registered when the message is handled, the opening for it
succeeds at every stage, its slot still has the process id `p` at the end, and the client `p` reads
its announcements as messages of its server. -/
def Delivers (p : UInt64) (n : ℕ) (s : Session) : Event → Prop
  | .server (.processClientMessage (some m)) => s.server.taken = n → m.pid ∈ s.server.clients
  | .server (.complete r (.resumed result)) =>
      ∀ o ∈ (s.server.sockets r).opening, o.2 = n →
        result.Succeeds ∧ (o.1 = .handshake → (s.server.slots n).pid = p)
  | .client q (.read (some m)) =>
      q = p → m.Tells p → (s.clients p).worker.Hears m.pid
  | _ => True

instance (p : UInt64) (n : ℕ) (s : Session) (ev : Event) : Decidable (s.Delivers p n ev) :=
  match ev with
  | .server (.processClientMessage (some _)) => inferInstanceAs (Decidable (_ → _))
  | .server (.complete r (.resumed _)) =>
      inferInstanceAs (Decidable (∀ o ∈ (s.server.sockets r).opening, _))
  | .client _ (.read (some _)) => inferInstanceAs (Decidable (_ → _ → _))
  | .server (.processClientMessage none) | .server .startHeartbeat | .server (.complete _ (.read _))
  | .server (.complete _ (.write ..)) | .server (.complete _ (.close _)) | .server .signal
  | .server .shutdownClosure | .server .stopClosure | .server .timerHandler
  | .server (.slotReused ..) | .server (.rehash ..) => inferInstanceAs (Decidable True)
  | .client _ (.read none) | .client _ .load | .client _ (.takeTime _)
  | .client _ (.sendHeartbeat _) | .client _ .compare | .client _ .disconnect
  | .client _ (.rehash _) | .client _ (.openWebSocket _)
  | .client _ (.spawnWebsocketsProxyServer _) | .client _ (.waitForServerReady _)
  | .client _ (.register ..) | .client _ (.sendOpenMessage ..) | .client _ (.closeWebSocket ..)
  | .client _ (.unregister _) | .client _ .forget | .client _ (.subscribe ..)
  | .client _ (.unsubscribe ..) | .client _ (.send ..) | .client _ (.setLogLevel ..)
  | .client _ (.wait ..) | .client _ (.timeout _) | .client _ (.answer ..) =>
      inferInstanceAs (Decidable True)

/-! ### Steps -/

variable {p : UInt64} {n : ℕ}

theorem mem_hearing {s s' : Session} {ev : Event} {k : ℕ} {obs : List Observation}
    (h : (k, obs) ∈ hearing p s ev s') :
  ∃ m, ev = .client p (.read (some m)) ∧ k = (s.clients p).serverQueueIndex ∧ obs = s.seen s' p
  := by
  unfold hearing at h
  split at h
  case h_1 q m =>
    split at h
    case isTrue heq =>
      obtain ⟨rfl, rfl⟩ := Prod.mk.inj (List.mem_singleton.mp h)
      exact ⟨m, by rw [heq], rfl, rfl⟩
    case isFalse => cases h
  case h_2 => cases h

/-- A step that answers the request and delivers announces that a connection was opened for its
sender. -/
theorem Delivers.announces {s : Session} {ev : WebsocketProxy.Event} {px : WebsocketProxy}
    (hdelivers : s.Delivers p n (.server ev)) (hfinds : s.ServerFinds ev)
    (hpx : s.server.step ev = some px) {req : WsOpen}
    (hreq : s.clientQueue[n]? = some { pid := p, data := .openWs req })
    (hanswer : s.server.answersIn px n ≠ []) :
  px.serverQueue = s.server.serverQueue ++ [s.server.reserveMessage (.openWs
    { id := (px.slots n).wsOpen.id, clientPid := p, newConnection := true })]
  := by
  obtain ⟨status, hstatus⟩ := List.exists_mem_of_ne_nil _ hanswer
  rcases WebsocketProxy.answered_cases hpx hstatus with ⟨m, rfl, rfl⟩ |
    ⟨r, c, stage, rfl, hopening, hends⟩
  · have hm : some m = s.clientQueue[s.server.taken]? := hfinds
    rw [hreq] at hm
    obtain rfl := Option.some.inj hm
    have hopen : (s.server.taking { pid := p, data := .openWs req }).handleClientMessage
        s.server.taken = (s.server.taking { pid := p, data := .openWs req }).openWs
          s.server.taken req := by
      rw [WebsocketProxy.handleClientMessage, WebsocketProxy.slots_taking]
    rw [WebsocketProxy.answersIn, WebsocketProxy.step_stores_handled hpx, WebsocketProxy.handled,
      hopen] at hanswer
    obtain ⟨r, hattaches⟩ := WebsocketProxy.openWs_answered (hdelivers rfl) hanswer
    rw [WebsocketProxy.message_serverQueue hpx, WebsocketProxy.message_slots hpx, hopen,
      hattaches.serverQueue, hattaches.slot]
    rfl
  · cases c with
    | resumed result =>
        obtain ⟨hsucceeds, hslot⟩ := hdelivers (stage, n) hopening rfl
        cases result with
        | success port =>
            obtain ⟨rfl, -⟩ := hends
            have henters : s.server.Enters r n px := by
              apply WebsocketProxy.step_enters hpx
              simp only [WebsocketProxy.entering, hopening]
            rw [henters.serverQueue, henters.slot, hslot rfl]
            rfl
        | failure | hostNameNotSet => exact hsucceeds.elim
    | read | write | close => exact hends.elim

/-- A client that reads an announcement for it calls back. -/
theorem Delivers.calls {s s' : Session} {m : Message}
    (hdelivers : s.Delivers p n (.client p (.read (some m)))) (hpid : (s.clients p).pid = p)
    (hstep : s.step (.client p (.read (some m))) = some s')
    {req : WsOpen} (hreq : m.data = .openWs req) (hclient : req.clientPid = p) :
  .callback (.onWebsocketOpened req.id) ∈ s.seen s' p
  := by
  obtain ⟨-, c, published, hc, rfl⟩ := step_client hstep
  have hself : (s.updateClient p (c, published)).clients p = c := Function.update_self ..
  have hhears : (s.clients p).worker.Hears m.pid := by
    apply hdelivers rfl
    rw [Message.Tells, hreq]
    exact hclient
  rw [seen, hself]
  cases WebsocketProxyClient.perform_step hc with
  | @readSome serverPid now _ hworker =>
      rw [hworker] at hhears
      obtain rfl : serverPid = m.pid := hhears
      rw [WebsocketProxyClient.handleResult_opened _ now hreq (hclient.trans hpid.symm),
        List.drop_left]
      apply List.mem_cons_of_mem _ (List.mem_singleton_self _)

/-! ### Runs -/

/-- The last answer of the request was announced, and the client calls back for every announcement
for it that it reads. -/
structure Reported (p : UInt64) (n : ℕ) (w : Observed Session Report) : Prop where
  announced : ∀ a ∈ w.notes.answer, n < w.state.server.taken ∧
    ∀ req, w.state.clientQueue[n]? = some { pid := p, data := .openWs req } →
      ∃ k m open', a.before ≤ k ∧ k < a.after ∧ w.state.server.serverQueue[k]? = some m ∧
        m.data = .openWs open' ∧ open'.id = a.id ∧ open'.clientPid = p
  heard : ∀ k obs, (k, obs) ∈ w.notes.heard → ∃ m, w.state.server.serverQueue[k]? = some m ∧
    ∀ open', m.data = .openWs open' → open'.clientPid = p →
      .callback (.onWebsocketOpened open'.id) ∈ obs

/-- A handler of the server keeps what is reported. -/
theorem Reported.server {w w' : Observed Session Report} {ev : WebsocketProxy.Event}
    (h : Reported p n w) (hreachable : WebsocketProxy.system.Reachable w.state.server)
    (hdelivers : w.state.Delivers p n (.server ev))
    (hstep : (reporting p n).step w (.server ev) = some w') :
  Reported p n w'
  := by
  obtain ⟨hstep, hnotes⟩ := TransitionSystem.observed_step.mp hstep
  obtain ⟨hfinds, px, hpx, hs'⟩ := step_server hstep
  have hqueue : w'.state.clientQueue = w.state.clientQueue := by rw [hs']
  have hstays : ∀ (k : ℕ) (m : Message), w.state.server.serverQueue[k]? = some m →
      w'.state.server.serverQueue[k]? = some m := by
    intro k m hk
    obtain ⟨news, hnews⟩ := WebsocketProxy.step_serverQueue hpx
    rw [hs', hnews, List.getElem?_append_left (List.getElem?_eq_some_iff.mp hk).1]
    exact hk
  have htaken : w'.state.server.taken = w.state.server.taken + ev.taken.toList.length := by
    rw [hs']
    apply WebsocketProxy.step_taken hpx
  have hheard : w'.notes.heard = w.notes.heard := by
    rw [hnotes]
    apply List.append_nil _
  constructor
  · intro a ha
    rw [hnotes] at ha
    simp only [Report.after] at ha
    split at ha
    case isTrue =>
      obtain ⟨hlt, hannounced⟩ := h.announced a ha
      constructor
      · omega
      · intro req hreq
        rw [hqueue] at hreq
        obtain ⟨k, m, open', hbefore, hafter, hk, hopen⟩ := hannounced req hreq
        exact ⟨k, m, open', hbefore, hafter, hstays k m hk, hopen⟩
    case isFalse hanswer =>
      obtain rfl := Option.some.inj ha
      rw [hs'] at hanswer
      constructor
      · obtain ⟨status, hstatus⟩ := List.exists_mem_of_ne_nil _ hanswer
        rcases WebsocketProxy.answered_cases hpx hstatus with ⟨m, rfl, rfl⟩ |
          ⟨r, c, stage, rfl, hopening, -⟩
        · rw [htaken]
          apply Nat.lt_succ_self _
        · have hlt := WebsocketProxy.reachable_opening_lt hreachable r stage n hopening
          omega
      · intro req hreq
        rw [hqueue] at hreq
        have hannounces := hdelivers.announces hfinds hpx hreq hanswer
        have hserver : w'.state.server = px := by rw [hs']
        rw [← hserver] at hannounces
        refine ⟨w.state.server.serverQueue.length, w.state.server.reserveMessage (.openWs
          { id := (w'.state.server.slots n).wsOpen.id, clientPid := p, newConnection := true }), _,
          Nat.le_refl _, ?_, ?_, rfl, rfl, rfl⟩
        · dsimp only
          rw [hannounces, List.length_append, List.length_singleton]
          apply Nat.lt_succ_self _
        · rw [hannounces]
          exact List.getElem?_concat_length
  · intro k obs hk
    rw [hheard] at hk
    obtain ⟨m, hm, hcalls⟩ := h.heard k obs hk
    exact ⟨m, hstays k m hm, hcalls⟩

/-- A step of a client keeps what is reported. -/
theorem Reported.client {w w' : Observed Session Report} {q : UInt64}
    {ev : WebsocketProxyClient.Event} (h : Reported p n w)
    (htaken : w.state.server.taken ≤ w.state.clientQueue.length)
    (hpid : (w.state.clients p).pid = p) (hdelivers : w.state.Delivers p n (.client q ev))
    (hstep : (reporting p n).step w (.client q ev) = some w') :
  Reported p n w'
  := by
  obtain ⟨hsession, hnotes⟩ := TransitionSystem.observed_step.mp hstep
  obtain ⟨hfinds, c, published, -, hs'⟩ := step_client hsession
  have hserver : w'.state.server = w.state.server := by rw [hs']; rfl
  have hanswer : w'.notes.answer = w.notes.answer := by
    rw [hnotes]
    rfl
  constructor
  · intro a ha
    rw [hanswer] at ha
    obtain ⟨hlt, hannounced⟩ := h.announced a ha
    rw [hserver]
    use hlt
    intro req hreq
    apply hannounced req
    rw [hs'] at hreq
    have hreq : (w.state.clientQueue ++ published)[n]? = _ := hreq
    rw [List.getElem?_append_left (Nat.lt_of_lt_of_le hlt htaken)] at hreq
    exact hreq
  · intro k obs hk
    rw [hserver]
    rw [hnotes] at hk
    rcases List.mem_append.mp hk with hk | hk
    · apply h.heard k obs hk
    · obtain ⟨m, hev, rfl, rfl⟩ := mem_hearing hk
      obtain ⟨rfl, rfl⟩ := Event.client.inj hev
      use m, hfinds.symm
      exact fun open' hopen hclient => hdelivers.calls hpid hsession hopen hclient

/-- When the steps of a run deliver, what is known of a request is reported. -/
theorem reachable_reported {w : Observed Session Report}
    (h : (reporting p n).ReachableUnder (fun w => w.state.Delivers p n) w) :
  Reported p n w
  := by
  apply h.invariant
  · rintro w ⟨-, hnotes⟩
    constructor
    · rw [hnotes]
      rintro a ⟨⟩
    · rw [hnotes]
      rintro k obs ⟨⟩
  · intro w ev w' hreachable hw hdelivers hstep
    have hsession : system.Reachable w.state := hreachable.observed
    cases ev with
    | server ev => exact hw.server (reachable_taken hsession).1 hdelivers hstep
    | client q ev =>
        apply hw.client (reachable_taken hsession).2 (reachable_client hsession p).2 hdelivers hstep

/-- In every run whose steps deliver, an `OpenWs` request of a client that is answered is reported
to the client with the id in the answer, once its worker has read what was published with the
answer. -/
theorem async_open_reported {w : Observed Session Report}
    (h : (reporting p n).ReachableUnder (fun w => w.state.Delivers p n) w) {req : WsOpen}
    (hreq : w.state.clientQueue[n]? = some { pid := p, data := .openWs req }) {a : Answer}
    (hanswer : w.notes.answer = some a)
    (hread : ∀ k, a.before ≤ k → k < a.after → ∃ obs, (k, obs) ∈ w.notes.heard) :
  ∃ k obs, (k, obs) ∈ w.notes.heard ∧ .callback (.onWebsocketOpened a.id) ∈ obs
  := by
  have hw := reachable_reported h
  obtain ⟨-, hannounced⟩ := hw.announced a hanswer
  obtain ⟨k, m, open', hbefore, hafter, hk, hopen, hid, hclient⟩ := hannounced req hreq
  obtain ⟨obs, hobs⟩ := hread k hbefore hafter
  obtain ⟨m', hk', hcalls⟩ := hw.heard k obs hobs
  obtain rfl := Option.some.inj (hk.symm.trans hk')
  use k, obs, hobs
  rw [← hid]
  apply hcalls open' hopen hclient

/-- A client opens a connection, and is told. -/
def openAndRead : List Event :=
  .server .startHeartbeat :: Event.openWebSocketAsync 1 [104] 0 1 1000 ++ Event.opened 0 ++
  Event.round 1 1000 (some (Event.wsOpen 1 70001))

theorem async_open_reported_openAndRead :
  ∃ w, (reporting 1 1).RunUnder (fun w => w.state.Delivers 1 1)
      { state := start 7 (fun _ => 100000) (fun _ => []), notes := {} } openAndRead w ∧
    ∃ k obs, (k, obs) ∈ w.notes.heard ∧ .callback (.onWebsocketOpened 70001) ∈ obs
  := by
  obtain ⟨w, hrun, hreq, hanswer, hheard⟩ :
      ∃ w, (reporting 1 1).RunUnder (fun w => w.state.Delivers 1 1)
        { state := start 7 (fun _ => 100000) (fun _ => []), notes := {} } openAndRead w ∧
      w.state.clientQueue[1]? = some { pid := 1, data := .openWs { url := [104], apiKey := [] } } ∧
      w.notes.answer = some ⟨1, 2, 70001⟩ ∧ w.notes.heard.map Prod.fst = [1] :=
    TransitionSystem.exists_runUnder (by decide +kernel)
  use w, hrun
  apply async_open_reported ⟨_, _, ⟨⟨7, _, _, rfl⟩, rfl⟩, hrun⟩ hreq hanswer
  intro k hbefore hafter
  obtain rfl : k = 1 := Nat.le_antisymm (Nat.le_of_lt_succ hafter) hbefore
  have hmem : 1 ∈ w.notes.heard.map Prod.fst := by
    rw [hheard]
    apply List.mem_singleton_self 1
  obtain ⟨⟨_, obs⟩, hobs, rfl⟩ := List.mem_map.mp hmem
  exact ⟨obs, hobs⟩

/-- The host of a client's open is not found. The connection is closed, and the client reads all
that is published of it. -/
def openFails : List Event :=
  .server .startHeartbeat :: Event.openWebSocketAsync 1 [104] 0 1 1000 ++
  [.server (.complete 0 (.resumed (.success 0))),
    .server (.complete 0 (.resumed (.failure ⟨.other, [101]⟩))),
    .server (.complete 0 (.close none))] ++
  Event.round 1 1000 (some { pid := 7, data := .wsError { id := 70001, len := 1, err := [101] } }) ++
  Event.round 1 1000 (some { pid := 7, data := .closeWs { id := 70001 } })

/-- The client is not told that its open failed. -/
theorem not_async_open_reported :
  ¬ ∀ (p : UInt64) (n : ℕ) (w : Observed Session Report) (req : WsOpen) (a : Answer),
    (reporting p n).Reachable w → p ∈ w.state.server.clients →
    .returned (.openWebSocketAsync true) ∈ (w.state.clients p).trace →
    w.state.clientQueue[n]? = some { pid := p, data := .openWs req } → w.notes.answer = some a →
    (∀ r < w.state.server.opens,
      (w.state.server.sockets r).closesDone = (w.state.server.sockets r).closesStarted) →
    (∀ k, a.before ≤ k → k < w.state.server.serverQueue.length →
      ∃ obs, (k, obs) ∈ w.notes.heard) →
    ∃ heard ∈ w.notes.heard, ∃ ob ∈ heard.2, ob.Reports
  := by
  intro hall
  obtain ⟨w, hrun, hp, hreturned, hreq, hanswer, hcloses, hlength, hheard, hsilent⟩ :
      ∃ w, (reporting 1 1).Run
        { state := start 7 (fun _ => 100000) (fun _ => []), notes := {} } openFails w ∧
      1 ∈ w.state.server.clients ∧
      .returned (.openWebSocketAsync true) ∈ (w.state.clients 1).trace ∧
      w.state.clientQueue[1]? = some { pid := 1, data := .openWs { url := [104], apiKey := [] } } ∧
      w.notes.answer = some ⟨1, 2, 0⟩ ∧
      (∀ r < w.state.server.opens,
        (w.state.server.sockets r).closesDone = (w.state.server.sockets r).closesStarted) ∧
      w.state.server.serverQueue.length = 3 ∧ w.notes.heard.map Prod.fst = [1, 2] ∧
      ¬ ∃ heard ∈ w.notes.heard, ∃ ob ∈ heard.2, ob.Reports :=
    TransitionSystem.exists_runUnder (by decide +kernel)
  apply hsilent
  apply hall 1 1 w _ _ ⟨_, _, ⟨⟨7, _, _, rfl⟩, rfl⟩, hrun⟩ hp hreturned hreq hanswer hcloses
  intro k hbefore hlt
  have hbefore : 1 ≤ k := hbefore
  have hmem : k ∈ w.notes.heard.map Prod.fst := by
    rw [hheard, List.mem_cons, List.mem_singleton]
    omega
  obtain ⟨⟨_, obs⟩, hobs, rfl⟩ := List.mem_map.mp hmem
  exact ⟨obs, hobs⟩

end Session
