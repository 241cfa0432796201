import WebsocketProxy.Library.Observed
import WebsocketProxy.Server.OpenAnswers
import WebsocketProxy.Server.Published
import WebsocketProxy.Session.Basic

/-!
# To whom the errors of requests go

A request that the server rejects is broadcast as an error of the connection it names, to all
clients, and a client takes it for its own if it has the id in `websockets_`. So a client is told
of no request of another if it does not have the id when it comes to read the error
(`no_foreign_error`). But the server also rejects requests for connections that others are
attached to, when the sender is not registered (`foreign_error`).
-/

namespace WebsocketProxyClient

/-- An observation is that of an error of a connection. -/
def Observation.IsError : Observation → Prop
  | callback (.onWebsocketError ..) => True
  | _ => False

instance (ob : Observation) : Decidable ob.IsError := by
  unfold Observation.IsError
  split <;> infer_instance

variable {c c' : WebsocketProxyClient} {ev : Event}

/-- An error is called back when it is read, and for an id that the client has. -/
theorem Sees.error_cases {seen : List Observation} (h : Sees c ev c' seen) {ob : Observation}
    (hob : ob ∈ seen) (herror : ob.IsError) :
  ∃ msg m, ev = .read (some msg) ∧ msg.data = .wsError m ∧ m.id ∈ c.websockets
  := by
  have hnot : ∀ {ob' : Observation}, ob ∈ [ob'] → ¬ ob'.IsError → False := by
    intro ob' hmem hnot
    rw [List.mem_singleton.mp hmem] at herror
    apply hnot herror
  have hcalls : ∀ {ob₁ ob₂ : Observation}, ob ∈ [ob₁, ob₂] → ¬ ob₁.IsError → ob = ob₂ := by
    intro ob₁ ob₂ hmem hnot
    rcases List.mem_cons.mp hmem with rfl | hmem
    · exact absurd herror hnot
    · apply List.mem_singleton.mp hmem
  cases h with
  | nothing => cases hob
  | returned | ignored => exact (hnot hob (fun h => h)).elim
  | opened | closed | data =>
      rw [hcalls hob (fun h => h)] at herror
      apply herror.elim
  | @error msg m hev hmsg hid => exact ⟨msg, m, hev, hmsg, hid⟩
  | @disconnected ids =>
      exfalso
      rcases List.mem_cons.mp hob with rfl | hob
      · exact herror
      · obtain ⟨id, -, rfl⟩ := List.mem_map.mp hob
        exact herror

end WebsocketProxyClient

namespace WebsocketProxy

/-- The sender of a request is registered, and its connection is found. -/
def Accepts (px : WebsocketProxy) (m : Message) (req : WsRequest) : Prop :=
  m.pid ∈ px.clients ∧ (px.websocketsById.lookup req.id).isSome

instance (px : WebsocketProxy) (m : Message) (req : WsRequest) : Decidable (px.Accepts m req) :=
  inferInstanceAs (Decidable (_ ∧ _))

/-- `sendWsRequest` passes the request on, or publishes an error of its connection. -/
theorem sendWsRequest_cases (px : WebsocketProxy) (m : Message) (req : WsRequest) :
  (px.Accepts m req ∧
    ((px.taking m).sendWsRequest px.taken req).serverQueue = px.serverQueue ∧
    ((px.taking m).sendWsRequest px.taken req).stores px.taken
      = px.stores px.taken ++ [.success]) ∨
  (¬ px.Accepts m req ∧
    (∃ err, ((px.taking m).sendWsRequest px.taken req).serverQueue
      = px.serverQueue ++ [px.reserveMessage (errorData req.id err)]) ∧
    ((px.taking m).sendWsRequest px.taken req).stores px.taken
      = px.stores px.taken ++ [.failed])
  := by
  rcases getClient_taking_cases px m with ⟨hpid, clients, -, hget⟩ | ⟨hpid, hget⟩
  · simp only [sendWsRequest, slots_taking, hget, if_true]
    split
    case h_1 r hr =>
      left
      refine ⟨⟨hpid, ?_⟩, rfl, Function.update_self ..⟩
      have hr : px.websocketsById.lookup req.id = some r := hr
      rw [hr]
      rfl
    case h_2 hr =>
      right
      refine ⟨?_, ⟨_, rfl⟩, Function.update_self ..⟩
      rintro ⟨-, hsome⟩
      have hr : px.websocketsById.lookup req.id = none := hr
      rw [hr] at hsome
      cases hsome
  · right
    simp only [sendWsRequest, slots_taking, hget]
    exact ⟨fun haccepts => hpid haccepts.1, ⟨_, rfl⟩, Function.update_self ..⟩

/-- What a step that handles a request answers and publishes. -/
theorem step_request {px px' : WebsocketProxy} {m : Message} {req : WsRequest}
    (h : px.step (.processClientMessage (some m)) = some px') (hreq : m.data = .wsRequest req) :
  (px.Accepts m req ∧ px'.serverQueue = px.serverQueue ∧
    px.answersIn px' px.taken = [.success]) ∨
  (¬ px.Accepts m req ∧
    (∃ err, px'.serverQueue = px.serverQueue ++ [px.reserveMessage (errorData req.id err)]) ∧
    px.answersIn px' px.taken = [.failed])
  := by
  have hhandled : ((px.taking m).handleClientMessage px.taken).1
      = (px.taking m).sendWsRequest px.taken req := by
    rw [handleClientMessage, slots_taking, hreq]
  have hqueue := message_serverQueue h
  have hstores := congrFun (message_handled h).2.1 px.taken
  rw [hhandled] at hqueue hstores
  rcases sendWsRequest_cases px m req with ⟨haccepts, hsame, hanswer⟩ | ⟨hnot, ⟨err, herr⟩, hanswer⟩
  · left
    use haccepts, hqueue.trans hsame
    apply answersIn_of_append (hstores.trans hanswer)
  · right
    use hnot, ⟨err, hqueue.trans herr⟩
    apply answersIn_of_append (hstores.trans hanswer)

end WebsocketProxy

namespace Session

open WebsocketProxyClient (Observation)

/-- What the client `q` has to do with requests of others. -/
structure Blame where
  /-- What was published for rejected requests of other clients: the id that the request named,
  and the number of the message. -/
  rejected : List (UInt64 × ℕ) := []
  /-- The client was called back with an error when it read one of these. -/
  blamed : Bool := false

/-- What is noted after a step. -/
def Blame.after (q : UInt64) (s : Session) (ev : Event) (s' : Session) (blame : Blame) : Blame :=
  match ev with
  | .server (.processClientMessage (some m)) =>
      match m.data with
      | .wsRequest req =>
          if m.pid ≠ q ∧ .failed ∈ s.server.answersIn s'.server s.server.taken then
            let published := List.range' s.server.serverQueue.length
              (s'.server.serverQueue.length - s.server.serverQueue.length)
            { blame with rejected := blame.rejected ++ published.map (req.id, ·) }
          else blame
      | _ => blame
  | .client p (.read (some _)) =>
      if p = q ∧ (s.clients q).serverQueueIndex ∈ blame.rejected.map Prod.snd then
        { blame with blamed := blame.blamed || decide (∃ ob ∈ s.seen s' q, ob.IsError) }
      else blame
  | _ => blame

/-- Sessions, observed for what the client `q` has to do with requests of others. -/
def blaming (q : UInt64) : TransitionSystem (Observed Session Blame) Event :=
  system.observed {} (Blame.after q)

/-- The client `q` when it has read what was published before message `k` of the server. -/
def caughtUp (s : Session) (q : UInt64) (k : ℕ) : WebsocketProxyClient :=
  (s.clients q).hear ((s.server.serverQueue.take k).drop (s.clients q).serverQueueIndex)

/-- When a request of another client is rejected, the client `q` does not have the id when it has
read what was published so far. Before it reads of the error, it does not miss that the
connection is closed, by taking another process id for that of the server. -/
def Unshared (q : UInt64) (w : Observed Session Blame) : Event → Prop
  | .server (.processClientMessage (some m)) =>
      match m.data with
      | .wsRequest req => m.pid ≠ q → ¬ w.state.server.Accepts m req →
          req.id ∉ (w.state.caughtUp q w.state.server.serverQueue.length).websockets
      | _ => True
  | .client p (.read (some m)) =>
      match m.data with
      | .closeWs req => p = q →
          (∃ e ∈ w.notes.rejected, e.1 = req.id ∧ (w.state.clients q).serverQueueIndex < e.2) →
          (w.state.clients q).worker.Hears m.pid
      | _ => True
  | _ => True

instance (q : UInt64) (w : Observed Session Blame) (ev : Event) : Decidable (Unshared q w ev) :=
  match ev with
  | .server (.processClientMessage (some ⟨_, data, _⟩)) =>
      match data with
      | .wsRequest _ => inferInstanceAs (Decidable (_ → _ → _))
      | .register _ | .unregister | .openWs _ | .closeWs _ | .heartbeat | .wsData _ | .wsError _
      | .subscribe _ | .unsubscribe _ | .logLevel _ | .unknown => inferInstanceAs (Decidable True)
  | .client _ (.read (some ⟨_, data, _⟩)) =>
      match data with
      | .closeWs _ => inferInstanceAs (Decidable (_ → _ → _))
      | .register _ | .unregister | .openWs _ | .heartbeat | .wsRequest _ | .wsData _ | .wsError _
      | .subscribe _ | .unsubscribe _ | .logLevel _ | .unknown => inferInstanceAs (Decidable True)
  | .server (.processClientMessage none) | .server .startHeartbeat | .server (.complete ..)
  | .server .signal | .server .shutdownClosure | .server .stopClosure | .server .timerHandler
  | .server (.slotReused ..) | .server (.rehash ..) => inferInstanceAs (Decidable True)
  | .client _ (.read none) | .client _ .load | .client _ (.takeTime _)
  | .client _ (.sendHeartbeat _) | .client _ .compare | .client _ .disconnect
  | .client _ (.rehash _) | .client _ (.openWebSocket _)
  | .client _ (.spawnWebsocketsProxyServer _) | .client _ (.waitForServerReady _)
  | .client _ (.register ..) | .client _ (.sendOpenMessage ..) | .client _ (.closeWebSocket ..)
  | .client _ (.unregister _) | .client _ .forget | .client _ (.subscribe ..)
  | .client _ (.unsubscribe ..) | .client _ (.send ..) | .client _ (.setLogLevel ..)
  | .client _ (.wait ..) | .client _ (.timeout _) | .client _ (.answer ..) =>
      inferInstanceAs (Decidable True)

/-! ### Steps -/

variable {q : UInt64}

/-- A client that has read nothing has no ids, and none has when nothing was published. -/
structure Following (s : Session) (q : UInt64) : Prop where
  index : (s.clients q).serverQueueIndex = 0 → ∀ id, id ∉ (s.clients q).websockets
  queue : s.server.serverQueue = [] → ∀ id, id ∉ (s.clients q).websockets

/-- Every client follows. -/
theorem reachable_following {s : Session} (h : system.Reachable s) :
  ∀ q, s.Following q
  := by
  apply h.invariant
  · rintro _ ⟨pid, clock, names, rfl⟩ q
    exact ⟨fun _ id => AList.notMem_empty id, fun _ id => AList.notMem_empty id⟩
  · intro s ev s' _ hs _ hstep q
    cases ev with
    | server ev =>
        obtain ⟨-, px, hpx, rfl⟩ := step_server hstep
        use (hs q).index
        intro hqueue
        apply (hs q).queue
        obtain ⟨news, hnews⟩ := WebsocketProxy.step_serverQueue hpx
        have hqueue : px.serverQueue = [] := hqueue
        rw [hnews] at hqueue
        exact (List.append_eq_nil_iff.mp hqueue).1
    | client p ev =>
        obtain ⟨hfinds, c, published, hc, rfl⟩ := step_client hstep
        rcases eq_or_ne q p with rfl | hne
        · have hself : (s.updateClient q (c, published)).clients q = c := Function.update_self ..
          have hserver : (s.updateClient q (c, published)).server = s.server := rfl
          rcases (WebsocketProxyClient.perform_step hc).moves with
            ⟨serverPid, now, msg, -, rfl, rfl⟩ | ⟨index, rfl, hindex, hids⟩ |
            ⟨-, hindex, hids⟩ | ⟨hindex, hids⟩
          · have hread : some msg = s.server.serverQueue[(s.clients q).serverQueueIndex]? := hfinds
            constructor
            · rw [hself]
              obtain ⟨websockets, trace, worker, hresult⟩ :=
                WebsocketProxyClient.handleResult_keeps (s.clients q) serverPid now msg
              rw [hresult]
              rintro ⟨⟩
            · intro hqueue
              rw [hserver] at hqueue
              rw [hqueue] at hread
              cases hread
          · have hlast : index = s.server.serverQueue.length := hfinds
            constructor
            · rw [hself, hindex, hids, hlast]
              exact fun hempty => (hs q).queue (List.length_eq_zero_iff.mp hempty)
            · rw [hself, hids, hserver]
              exact (hs q).queue
          · constructor
            · rw [hself, hindex]
              rintro ⟨⟩
            · rw [hself, hids, hserver]
              exact (hs q).queue
          · constructor
            · rw [hself, hindex]
              exact fun hzero id hid => (hs q).index hzero id (hids id hid)
            · rw [hself, hserver]
              exact fun hempty id hid => (hs q).queue hempty id (hids id hid)
        · have hother : (s.updateClient p (c, published)).clients q = s.clients q :=
            Function.update_of_ne hne ..
          constructor
          · rw [hother]
            exact (hs q).index
          · rw [hother]
            exact (hs q).queue

/-! ### Runs -/

/-- The client `q` does not have the id of a rejected request of another client when it comes to
read the error, and was called back for none. -/
structure Blameless (q : UInt64) (w : Observed Session Blame) : Prop where
  published : ∀ id k, (id, k) ∈ w.notes.rejected → ∃ m, w.state.server.serverQueue[k]? = some m ∧
    ∀ err, m.data = .wsError err → err.id = id
  safe : ∀ id k, (id, k) ∈ w.notes.rejected → (w.state.clients q).serverQueueIndex ≤ k →
    id ∉ (w.state.caughtUp q k).websockets
  blamed : ¬ w.notes.blamed

theorem Blameless.lt_length {w : Observed Session Blame} (h : Blameless q w) {id : UInt64} {k : ℕ}
    (hk : (id, k) ∈ w.notes.rejected) :
  k < w.state.server.serverQueue.length
  := by
  obtain ⟨m, hm, -⟩ := h.published id k hk
  exact (List.getElem?_eq_some_iff.mp hm).1

/-- What a step of the server notes: a rejected request, with the one message that is published
for it. -/
theorem rejected_server {w w' : Observed Session Blame} {ev : WebsocketProxy.Event}
    (hunshared : Unshared q w (.server ev)) (hstep : (blaming q).step w (.server ev) = some w') :
  w'.notes.blamed = w.notes.blamed ∧ (w'.notes.rejected = w.notes.rejected ∨
    ∃ id err, w'.state.server.serverQueue = w.state.server.serverQueue
        ++ [w.state.server.reserveMessage (WebsocketProxy.errorData id err)] ∧
      id ∉ (w.state.caughtUp q w.state.server.serverQueue.length).websockets ∧
      w'.notes.rejected = w.notes.rejected ++ [(id, w.state.server.serverQueue.length)])
  := by
  obtain ⟨hsession, hnotes⟩ := TransitionSystem.observed_step.mp hstep
  obtain ⟨-, px, hpx, hs'⟩ := step_server hsession
  simp only [Blame.after] at hnotes
  split at hnotes
  case h_1 m hev =>
    obtain rfl := Event.server.inj hev
    split at hnotes
    case h_1 req hreq =>
      split at hnotes
      case isTrue hrejected =>
        rw [hs'] at hrejected
        obtain ⟨hpid, hfailed⟩ := hrejected
        rcases WebsocketProxy.step_request hpx hreq with ⟨-, -, hanswer⟩ |
          ⟨hnot, ⟨err, hqueue⟩, -⟩
        · rw [hanswer] at hfailed
          cases List.mem_singleton.mp hfailed
        · rw [hnotes]
          use rfl
          right
          use req.id, err
          have hserver : w'.state.server = px := by rw [hs']
          rw [hserver]
          use hqueue
          constructor
          · simp only [Unshared, hreq] at hunshared
            apply hunshared hpid hnot
          · rw [hqueue, List.length_append, Nat.add_sub_cancel_left]
            rfl
      case isFalse =>
        rw [hnotes]
        exact ⟨rfl, Or.inl rfl⟩
    case h_2 =>
      rw [hnotes]
      exact ⟨rfl, Or.inl rfl⟩
  case h_2 hev => cases hev
  case h_3 =>
    rw [hnotes]
    exact ⟨rfl, Or.inl rfl⟩

/-- A handler of the server keeps the client blameless. -/
theorem Blameless.server {w w' : Observed Session Blame} {ev : WebsocketProxy.Event}
    (h : Blameless q w) (hunshared : Unshared q w (.server ev))
    (hstep : (blaming q).step w (.server ev) = some w') :
  Blameless q w'
  := by
  obtain ⟨hsession, -⟩ := TransitionSystem.observed_step.mp hstep
  obtain ⟨-, px, hpx, hs'⟩ := step_server hsession
  obtain ⟨news, hnews⟩ := WebsocketProxy.step_serverQueue hpx
  have hqueue : w'.state.server.serverQueue = w.state.server.serverQueue ++ news := by
    rw [hs', hnews]
  have hclient : w'.state.clients q = w.state.clients q := by rw [hs']
  have hcaughtUp : ∀ k ≤ w.state.server.serverQueue.length,
      w'.state.caughtUp q k = w.state.caughtUp q k := by
    intro k hk
    rw [caughtUp, caughtUp, hclient, hqueue, List.take_append_of_le_length hk]
  obtain ⟨hblamed, hrejected⟩ := rejected_server hunshared hstep
  have hbefore : ∀ id k, (id, k) ∈ w.notes.rejected →
      (∃ m, w'.state.server.serverQueue[k]? = some m ∧ ∀ err, m.data = .wsError err → err.id = id) ∧
      ((w'.state.clients q).serverQueueIndex ≤ k → id ∉ (w'.state.caughtUp q k).websockets) := by
    intro id k hk
    constructor
    · obtain ⟨m, hm, herror⟩ := h.published id k hk
      use m
      rw [hqueue, List.getElem?_append_left (h.lt_length hk)]
      use hm
    · rw [hclient, hcaughtUp k (Nat.le_of_lt (h.lt_length hk))]
      apply h.safe id k hk
  have hall : ∀ id k, (id, k) ∈ w'.notes.rejected →
      (∃ m, w'.state.server.serverQueue[k]? = some m ∧ ∀ err, m.data = .wsError err → err.id = id) ∧
      ((w'.state.clients q).serverQueueIndex ≤ k → id ∉ (w'.state.caughtUp q k).websockets) := by
    rcases hrejected with hsame | ⟨id', err', hpublished, hnot, hnew⟩
    · rw [hsame]
      exact hbefore
    · intro id k hk
      rw [hnew] at hk
      rcases List.mem_append.mp hk with hk | hk
      · apply hbefore id k hk
      · obtain ⟨rfl, rfl⟩ := Prod.mk.inj (List.mem_singleton.mp hk)
        constructor
        · use w.state.server.reserveMessage (WebsocketProxy.errorData id err')
          rw [hpublished]
          use List.getElem?_concat_length
          rintro err hdata
          obtain rfl := Message.Data.wsError.inj hdata
          rfl
        · intro _
          rw [hcaughtUp _ (Nat.le_refl _)]
          exact hnot
  constructor
  · exact fun id k hk => (hall id k hk).1
  · exact fun id k hk => (hall id k hk).2
  · rw [hblamed]
    apply h.blamed

/-- A step of another client keeps the client blameless. -/
theorem Blameless.other {w w' : Observed Session Blame} {p : UInt64}
    {ev : WebsocketProxyClient.Event} (h : Blameless q w) (hne : q ≠ p)
    (hstep : (blaming q).step w (.client p ev) = some w') :
  Blameless q w'
  := by
  obtain ⟨hsession, hnotes⟩ := TransitionSystem.observed_step.mp hstep
  obtain ⟨-, c, published, -, hs'⟩ := step_client hsession
  have hserver : w'.state.server = w.state.server := by rw [hs']; rfl
  have hclient : w'.state.clients q = w.state.clients q := by
    rw [hs']
    exact Function.update_of_ne hne ..
  have hnotes : w'.notes = w.notes := by
    rw [hnotes]
    cases ev with
    | read result =>
        cases result with
        | none => rfl
        | some m => exact if_neg fun hp => hne hp.1.symm
    | _ => rfl
  constructor
  · rw [hnotes, hserver]
    apply h.published
  · rw [hnotes, hclient]
    intro id k hk
    rw [caughtUp, hclient, hserver]
    apply h.safe id k hk
  · rw [hnotes]
    apply h.blamed

/-- What there is to read up to message `k` begins with the next message. -/
theorem unheard_cons {msgs : List Message} {i k : ℕ} (hi : i < k) (hk : k < msgs.length) :
  ∃ m, msgs[i]? = some m ∧ (msgs.take k).drop i = m :: (msgs.take k).drop (i + 1)
  := by
  have hlt : i < (msgs.take k).length := by
    rw [List.length_take]
    omega
  use (msgs.take k)[i]
  constructor
  · rw [List.getElem_take, List.getElem?_eq_getElem (Nat.lt_trans hi hk)]
  · apply List.drop_eq_getElem_cons hlt

/-- A step of the client leaves it without the ids of the errors it has not read. -/
theorem Blameless.safe_self {w w' : Observed Session Blame} {ev : WebsocketProxyClient.Event}
    (h : Blameless q w) (hfollowing : w.state.Following q) (hunshared : Unshared q w (.client q ev))
    (hsession : w.state.step (.client q ev) = some w'.state) {id : UInt64} {k : ℕ}
    (hk : (id, k) ∈ w.notes.rejected) (hle : (w'.state.clients q).serverQueueIndex ≤ k) :
  id ∉ (w'.state.caughtUp q k).websockets
  := by
  obtain ⟨hfinds, c, published, hc, hs'⟩ := step_client hsession
  have hserver : w'.state.server = w.state.server := by rw [hs']; rfl
  have hclient : w'.state.clients q = c := by
    rw [hs']
    exact Function.update_self ..
  have hstep := WebsocketProxyClient.perform_step hc
  have hsafe := h.safe id k hk
  rw [hclient] at hle
  rw [caughtUp] at hsafe ⊢
  rw [hclient, hserver]
  rcases hstep.moves with ⟨serverPid, now, msg, hworker, rfl, rfl⟩ | ⟨index, rfl, hindex, -⟩ |
    ⟨hzero, hindex, hids⟩ | ⟨hindex, hids⟩
  · have hread : some msg = w.state.server.serverQueue[(w.state.clients q).serverQueueIndex]? :=
      hfinds
    have hindex : ((w.state.clients q).handleResult serverPid now msg).serverQueueIndex
        = (w.state.clients q).serverQueueIndex + 1 := by
      obtain ⟨websockets, trace, worker, hresult⟩ :=
        WebsocketProxyClient.handleResult_keeps (w.state.clients q) serverPid now msg
      rw [hresult]
    rw [hindex] at hle ⊢
    obtain ⟨m, hm, hcons⟩ := unheard_cons hle (h.lt_length hk)
    obtain rfl := Option.some.inj (hread.trans hm)
    rw [hcons] at hsafe
    intro hid
    apply hsafe (Nat.le_of_lt hle)
    refine WebsocketProxyClient.hear_mono (d := (w.state.clients q).handleMessage msg) ?_ ?_ hid
    · obtain ⟨websockets, trace, hhandled⟩ :=
        WebsocketProxyClient.handleMessage_keeps (w.state.clients q) msg
      rw [hstep.pid, hhandled]
    · intro hid
      rw [WebsocketProxyClient.mem_handleResult] at hid
      split at hid
      case isTrue => exact hid
      case isFalse hne =>
        -- only a close takes an id from the client, and the worker hears that
        rw [WebsocketProxyClient.mem_handleMessage]
        cases hdata : msg.data with
        | openWs req => exact Or.inr hid
        | closeWs req =>
            refine ⟨?_, hid⟩
            rintro rfl
            simp only [Unshared, hdata, hworker] at hunshared
            exact hne (hunshared trivial ⟨_, hk, rfl, hle⟩)
        | _ => exact hid
  · have hlast : index = w.state.server.serverQueue.length := hfinds
    have hlt := h.lt_length hk
    omega
  · rw [hindex] at hle ⊢
    obtain ⟨m, -, hcons⟩ := unheard_cons hle (h.lt_length hk)
    rw [hzero, hcons] at hsafe
    intro hid
    apply hsafe (Nat.zero_le _)
    refine WebsocketProxyClient.hear_mono (d := (w.state.clients q).handleMessage m) ?_ ?_ hid
    · obtain ⟨websockets, trace, hhandled⟩ :=
        WebsocketProxyClient.handleMessage_keeps (w.state.clients q) m
      rw [hstep.pid, hhandled]
    · intro hid
      rw [hids] at hid
      exact absurd hid (hfollowing.index hzero id)
  · rw [hindex] at hle ⊢
    intro hid
    apply hsafe hle (WebsocketProxyClient.hear_mono hstep.pid (hids id) hid)

/-- A step of the client keeps it blameless. -/
theorem Blameless.self {w w' : Observed Session Blame} {ev : WebsocketProxyClient.Event}
    (h : Blameless q w) (hfollowing : w.state.Following q) (hunshared : Unshared q w (.client q ev))
    (hstep : (blaming q).step w (.client q ev) = some w') :
  Blameless q w'
  := by
  obtain ⟨hsession, hnotes⟩ := TransitionSystem.observed_step.mp hstep
  obtain ⟨hfinds, c, published, hc, hs'⟩ := step_client hsession
  have hserver : w'.state.server = w.state.server := by rw [hs']; rfl
  have hnoted : w'.notes.rejected = w.notes.rejected ∧ (w'.notes.blamed → w.notes.blamed ∨
      ∃ msg, ev = .read (some msg) ∧
        (w.state.clients q).serverQueueIndex ∈ w.notes.rejected.map Prod.snd ∧
        ∃ ob ∈ w.state.seen w'.state q, ob.IsError) := by
    rw [hnotes]
    cases ev with
    | read result =>
        cases result with
        | none => exact ⟨rfl, Or.inl⟩
        | some msg =>
            simp only [Blame.after]
            split
            case isTrue hrejected =>
              simp only [Bool.or_eq_true, decide_eq_true_eq, true_and]
              exact Or.imp_right fun herror => ⟨msg, rfl, hrejected.2, herror⟩
            case isFalse => exact ⟨rfl, Or.inl⟩
    | _ => exact ⟨rfl, Or.inl⟩
  obtain ⟨hrejected, hblamed⟩ := hnoted
  constructor
  · rw [hrejected, hserver]
    apply h.published
  · rw [hrejected]
    exact fun id k hk hle => h.safe_self hfollowing hunshared hsession hk hle
  · intro hblame
    rcases hblamed hblame with hbefore | ⟨msg, rfl, hread, ob, hob, herror⟩
    · apply h.blamed hbefore
    · obtain ⟨⟨id, k⟩, hk, hindex⟩ := List.mem_map.mp hread
      obtain rfl : k = (w.state.clients q).serverQueueIndex := hindex
      have hsession : w.state.step (.client q (.read (some msg))) = some w'.state := hsession
      rcases step_seen hsession q with ⟨-, hnothing⟩ | ⟨ev', published', hev', -, hsees⟩
      · rw [hnothing] at hob
        cases hob
      · obtain ⟨-, rfl⟩ := Event.client.inj hev'
        obtain ⟨msg', m, hev, hdata, hid⟩ := hsees.error_cases hob herror
        obtain rfl := Option.some.inj (WebsocketProxyClient.Event.read.inj hev)
        have hfound : some msg
            = w.state.server.serverQueue[(w.state.clients q).serverQueueIndex]? := hfinds
        obtain ⟨m', hm', hsame⟩ := h.published id _ hk
        obtain rfl := Option.some.inj (hfound.trans hm')
        have hsafe := h.safe id _ hk (Nat.le_refl _)
        rw [caughtUp, List.drop_eq_nil_of_le (List.length_take_le _ _)] at hsafe
        rw [hsame m hdata] at hid
        apply hsafe hid

/-- When the steps of a run share no ids, the client is blameless. -/
theorem reachable_blameless {w : Observed Session Blame}
    (h : (blaming q).ReachableUnder (Unshared q) w) :
  Blameless q w
  := by
  apply h.invariant
  · rintro w ⟨-, hnotes⟩
    constructor
    · rw [hnotes]
      rintro id k ⟨⟩
    · rw [hnotes]
      rintro id k ⟨⟩
    · rw [hnotes]
      rintro ⟨⟩
  · intro w ev w' hreachable hw hunshared hstep
    cases ev with
    | server ev => exact hw.server hunshared hstep
    | client p ev =>
        rcases eq_or_ne q p with rfl | hne
        · apply hw.self (reachable_following hreachable.observed q) hunshared hstep
        · apply hw.other hne hstep

/-- In every run whose steps share no ids with the client `q`, the client is not called back with
an error for a rejected request of another client. -/
theorem no_foreign_error {w : Observed Session Blame}
    (h : (blaming q).ReachableUnder (Unshared q) w) :
  ¬ w.notes.blamed
  := (reachable_blameless h).blamed

/-- The client 2 has a connection, and the client 1 has asked for another. -/
def openForTwo : List Event :=
  .server .startHeartbeat :: Event.openWebSocketAsync 2 [104] 0 1 1000 ++
  Event.openWebSocketAsync 1 [105] 2 1 1000 ++ Event.opened 0 ++
  Event.round 2 1000 (some (Event.wsOpen 2 70001))

/-- The client 1 sends a request, which is rejected with an error that the client 2 reads. -/
def rejects (id : UInt64) (err : String) : List Event :=
  [.client 1 (.send ⟨id, [5]⟩ 1000), Event.take { pid := 1, data := .wsRequest ⟨id, [5]⟩ }] ++
  Event.round 2 1000 (some { pid := 7, data := WebsocketProxy.errorData id (toBytes err) })

/-- The connection of the request is unknown. -/
def requestUnknown : List Event :=
  openForTwo ++ rejects 5 "Failed to send message. Websocket not found. id=5"

theorem no_foreign_error_requestUnknown :
  ∃ w, (blaming 2).RunUnder (Unshared 2)
      { state := start 7 (fun _ => 100000) (fun _ => []), notes := {} } requestUnknown w ∧
    w.notes.rejected = [(5, 2)] ∧ (w.state.clients 2).serverQueueIndex = 3 ∧ ¬ w.notes.blamed
  := by
  obtain ⟨w, hrun, hrejected, hread⟩ : ∃ w, (blaming 2).RunUnder (Unshared 2)
        { state := start 7 (fun _ => 100000) (fun _ => []), notes := {} } requestUnknown w ∧
      w.notes.rejected = [(5, 2)] ∧ (w.state.clients 2).serverQueueIndex = 3 :=
    TransitionSystem.exists_runUnder (by decide +kernel)
  use w, hrun, hrejected, hread
  exact no_foreign_error ⟨_, _, ⟨⟨7, _, _, rfl⟩, rfl⟩, hrun⟩

/-- The client 1 unregisters, and sends a request for the connection of the client 2. -/
def requestUnregistered : List Event :=
  openForTwo ++ Event.closeWebSocket 1 70002 4 1000 [] ++
  rejects 70001 "Failed to send message. Client not found. pid=1"

/-- The client 2 is called back with an error of its connection, because a request of the client 1
is rejected. -/
theorem foreign_error :
  ¬ ∀ (q : UInt64) (w : Observed Session Blame), (blaming q).Reachable w → ¬ w.notes.blamed
  := by
  intro hall
  obtain ⟨w, hrun, hblamed⟩ : ∃ w, (blaming 2).Run
      { state := start 7 (fun _ => 100000) (fun _ => []), notes := {} } requestUnregistered w ∧
      w.notes.blamed = true :=
    TransitionSystem.exists_runUnder (by decide +kernel)
  exact hall 2 w ⟨_, _, ⟨⟨7, _, _, rfl⟩, rfl⟩, hrun⟩ hblamed

end Session
