import WebsocketProxy.Client.Steps
import WebsocketProxy.Server.Openings

/-!
# A proxy server and its clients

`Session` is a proxy server with any number of clients, one for each process id, and the two
queues between them. The server takes the messages of the clients in the order in which they
were published, and every client reads all messages of the server from its reading index on.
An event is a handler of the server or a step of a client, which finds what is there.

The server and every client of a session do what they do by themselves: their runs are runs
of `WebsocketProxy.system` and of `WebsocketProxyClient.system`.
-/

/-- A proxy server, its clients by process id, and the messages the clients published. -/
structure Session where
  server : WebsocketProxy
  clients : UInt64 → WebsocketProxyClient
  clientQueue : List Message := []

namespace Session

/-- What is read in the slot of a message of a client. -/
def slot (s : Session) (msg : ℕ) : Message :=
  if msg < s.server.taken then s.server.slots msg else s.clientQueue.getD msg default

/-- The message the caller of a client waits for the answer of. -/
def awaited (c : WebsocketProxyClient) : Option ℕ :=
  match c.caller with
  | .waiting msg _ _ => some msg
  | _ => none

/-- A handler of the server finds the next message of the client queue. -/
def ServerFinds (s : Session) : WebsocketProxy.Event → Prop
  | .processClientMessage msg => msg = s.clientQueue[s.server.taken]?
  | _ => True

/-- A step of a client finds what is there: in the server queue, in the slot of the message it
waits for, or as the number of the next message of the client queue. -/
def ClientFinds (s : Session) (c : WebsocketProxyClient) : WebsocketProxyClient.Event → Prop
  | .read result => result = s.server.serverQueue[c.serverQueueIndex]?
  | .spawnWebsocketsProxyServer (some index) => index = s.server.serverQueue.length
  | .waitForServerReady true => s.server.serverQueue ≠ []
  | .register msg _ _ | .sendOpenMessage msg _ _ | .closeWebSocket _ msg _ _
  | .subscribe _ _ msg _ _ => msg = s.clientQueue.length
  | .wait _ _ | .timeout _ => (awaited c).map (fun msg => (s.slot msg).status) = some .pending
  | .answer answer _ => (awaited c).map s.slot = some answer
  | _ => True

instance (s : Session) (ev : WebsocketProxy.Event) : Decidable (s.ServerFinds ev) :=
  match ev with
  | .processClientMessage msg =>
      inferInstanceAs (Decidable (msg = s.clientQueue[s.server.taken]?))
  | .startHeartbeat | .complete .. | .signal | .shutdownClosure | .stopClosure | .timerHandler
  | .slotReused .. | .rehash .. => inferInstanceAs (Decidable True)

instance (s : Session) (c : WebsocketProxyClient) (ev : WebsocketProxyClient.Event) :
    Decidable (s.ClientFinds c ev) :=
  match ev with
  | .read result => inferInstanceAs (Decidable (result = _))
  | .spawnWebsocketsProxyServer (some index) => inferInstanceAs (Decidable (index = _))
  | .waitForServerReady true => inferInstanceAs (Decidable (s.server.serverQueue ≠ []))
  | .register msg _ _ | .sendOpenMessage msg _ _ | .closeWebSocket _ msg _ _
  | .subscribe _ _ msg _ _ => inferInstanceAs (Decidable (msg = s.clientQueue.length))
  | .wait _ _ | .timeout _ | .answer _ _ => inferInstanceAs (Decidable ((awaited c).map _ = some _))
  | .spawnWebsocketsProxyServer none | .waitForServerReady false | .load | .takeTime _
  | .sendHeartbeat _ | .compare | .disconnect | .rehash _ | .openWebSocket _ | .unregister _ | .forget
  | .unsubscribe .. | .send .. | .setLogLevel .. => inferInstanceAs (Decidable True)

/-- What happens in a session. -/
inductive Event where
  | server (ev : WebsocketProxy.Event)
  | client (pid : UInt64) (ev : WebsocketProxyClient.Event)

/-- A session after a step of a client that publishes messages. -/
def updateClient (s : Session) (pid : UInt64) (result : WebsocketProxyClient × List Message) :
    Session :=
  { s with
    clients := Function.update s.clients pid result.1
    clientQueue := s.clientQueue ++ result.2 }

/-- A session after an event. -/
def step (s : Session) : Event → Option Session
  | .server ev =>
      if s.ServerFinds ev then (s.server.step ev).map (fun px => { s with server := px }) else none
  | .client pid ev =>
      if s.ClientFinds (s.clients pid) ev then
        ((s.clients pid).perform ev).map (s.updateClient pid)
      else none

/-- A session whose server enters its loop, with clients that have done nothing yet. -/
def start (pid : UInt64) (clock : ℕ → UInt64) (names : UInt64 → Bytes) : Session where
  server := .start pid clock
  clients p := .start p (names p)

/-- A session as a transition system. -/
def system : TransitionSystem Session Event where
  initial s := ∃ pid clock names, s = start pid clock names
  step := step

/-- A condition on the handlers of the server. -/
def OnServer (guard : WebsocketProxy → WebsocketProxy.Event → Prop) (s : Session) : Event → Prop
  | .server ev => guard s.server ev
  | .client _ _ => True

instance (guard : WebsocketProxy → WebsocketProxy.Event → Prop)
    [∀ px ev, Decidable (guard px ev)] (s : Session) (ev : Event) :
    Decidable (s.OnServer guard ev) :=
  match ev with
  | .server ev => inferInstanceAs (Decidable (guard s.server ev))
  | .client _ _ => inferInstanceAs (Decidable True)

namespace Event

/-- The server takes a message. -/
def take (m : Message) : Event := .server (.processClientMessage (some m))

/-- The client `p` connects to the server 7 and asks for a connection, when `msgs` messages of
clients and `index` messages of the server have been published. -/
def openWebSocketAsync (p : UInt64) (url : Bytes) (msgs index : ℕ) (now : UInt64) : List Event :=
  [.client p (.openWebSocket ⟨url, [], true⟩),
    .client p (.spawnWebsocketsProxyServer (some index)),
    .client p (.register msgs now now), take { pid := p, data := .register { name := [] } },
    .client p (.answer
      { pid := p, data := .register { name := [], serverPid := 7 }, status := .success } now),
    .client p (.sendOpenMessage (msgs + 1) now now),
    take { pid := p, data := .openWs { url, apiKey := [] } }]

/-- The client that makes a step. -/
def actor : Event → Option UInt64
  | .server _ => none
  | .client p _ => some p

/-- The opening of the connection at `r` succeeds. -/
def opened (r : ℕ) : List Event := (WebsocketProxy.Event.opened r).map .server

/-- A connection reads a message. -/
def received (r : ℕ) (data : Bytes) : Event := .server (.complete r (.read (.ok data)))

/-- The client `p` closes a connection and the server answers, when `msgs` messages of clients
have been published; `between` happens before the client takes the answer. -/
def closeWebSocket (p id : UInt64) (msgs : ℕ) (now : UInt64) (between : List Event) : List Event :=
  [.client p (.closeWebSocket id msgs now now), take { pid := p, data := .closeWs { id } }] ++
  between ++
  [.client p (.answer { pid := p, data := .closeWs { id }, status := .success } now),
    .client p (.unregister now), take { pid := p, data := .unregister }, .client p .forget]

/-- The server tells the client `p` of a connection. -/
def wsOpen (p id : UInt64) : Message :=
  { pid := 7, data := .openWs { id, clientPid := p, newConnection := true } }

/-- The worker of the client `p` goes round. -/
def round (p now : UInt64) (result : Option Message) : List Event :=
  (WebsocketProxyClient.Event.round now result).map (.client p)

end Event

/-- What is seen of the client `p` from `s` to `s'`. -/
def seen (s s' : Session) (p : UInt64) : List WebsocketProxyClient.Observation :=
  (s'.clients p).trace.drop (s.clients p).trace.length

/-! ### Steps -/

/-- A handler of the server. -/
theorem step_server {s s' : Session} {ev : WebsocketProxy.Event} (h : s.step (.server ev) = some s') :
  s.ServerFinds ev ∧ ∃ px, s.server.step ev = some px ∧ s' = { s with server := px }
  := by
  rw [step] at h
  split at h
  case isTrue hfinds =>
    obtain ⟨px, hpx, rfl⟩ := Option.map_eq_some_iff.mp h
    exact ⟨hfinds, px, hpx, rfl⟩
  case isFalse => cases h

/-- A step of a client. -/
theorem step_client {s s' : Session} {pid : UInt64} {ev : WebsocketProxyClient.Event}
    (h : s.step (.client pid ev) = some s') :
  s.ClientFinds (s.clients pid) ev ∧ ∃ c published,
    (s.clients pid).perform ev = some (c, published) ∧ s' = s.updateClient pid (c, published)
  := by
  rw [step] at h
  split at h
  case isTrue hfinds =>
    obtain ⟨⟨c, published⟩, hc, rfl⟩ := Option.map_eq_some_iff.mp h
    exact ⟨hfinds, c, published, hc, rfl⟩
  case isFalse => cases h

/-- Nothing is seen of a client in an event that is not a step of it. -/
theorem step_seen {s s' : Session} {ev : Event} (h : s.step ev = some s') (p : UInt64) :
  (s'.clients p = s.clients p ∧ s.seen s' p = []) ∨
    ∃ ev' published, ev = .client p ev' ∧
      WebsocketProxyClient.Step (s.clients p) ev' (s'.clients p) published ∧
      WebsocketProxyClient.Sees (s.clients p) ev' (s'.clients p) (s.seen s' p)
  := by
  have hnothing : s'.clients p = s.clients p → s'.clients p = s.clients p ∧ s.seen s' p = [] := by
    intro hsame
    use hsame
    rw [seen, hsame, List.drop_length]
  cases ev with
  | server ev =>
      obtain ⟨-, px, -, rfl⟩ := step_server h
      apply Or.inl (hnothing rfl)
  | client q ev =>
      obtain ⟨-, c, published, hc, rfl⟩ := step_client h
      rcases eq_or_ne p q with rfl | hne
      · right
        have hself : (s.updateClient p (c, published)).clients p = c := Function.update_self ..
        have hstep := WebsocketProxyClient.perform_step hc
        obtain ⟨news, htrace, hsees⟩ := hstep.sees
        use ev, published, rfl
        rw [seen, hself, htrace, List.drop_left]
        exact ⟨hstep, hsees⟩
      · left
        apply hnothing
        exact Function.update_of_ne hne ..

/-- A client that makes no step in a run stays as it is. -/
theorem run_not_actor {guard : Session → Event → Prop} {s s' : Session} {es : List Event}
    (h : system.RunUnder guard s es s') {p : UInt64} (hp : p ∉ es.filterMap Event.actor) :
  s'.clients p = s.clients p
  := by
  induction h with
  | nil => rfl
  | @snoc es t ev u _ _ hstep ih =>
      rw [List.filterMap_append, List.mem_append, not_or] at hp
      rw [← ih hp.1]
      rcases step_seen hstep p with ⟨hsame, -⟩ | ⟨ev', published, rfl, -⟩
      · exact hsame
      · exact absurd (List.mem_singleton_self _) hp.2

/-! ### The parts of a session -/

variable {guard : WebsocketProxy → WebsocketProxy.Event → Prop}

/-- The messages taken are the first of the client queue, and a step takes the next. -/
theorem takes_next {s : Session} {ev : WebsocketProxy.Event} {px : WebsocketProxy}
    (hle : s.server.taken ≤ s.clientQueue.length) (hfinds : s.ServerFinds ev)
    (hstep : s.server.step ev = some px) :
  px.taken ≤ s.clientQueue.length ∧
    s.clientQueue.take px.taken = s.clientQueue.take s.server.taken ++ ev.taken.toList
  := by
  rw [WebsocketProxy.step_taken hstep]
  cases htaken : ev.taken with
  | none =>
      rw [Option.toList_none, List.length_nil, Nat.add_zero, List.append_nil]
      exact ⟨hle, rfl⟩
  | some m =>
      have hnext : s.clientQueue[s.server.taken]? = some m := by
        cases ev with
        | processClientMessage msg =>
            obtain rfl : msg = some m := htaken
            apply hfinds.symm
        | _ => cases htaken
      have hlt := (List.getElem?_eq_some_iff.mp hnext).1
      rw [Option.toList_some, List.length_singleton]
      constructor
      · exact hlt
      · rw [List.take_add_one, hnext]
        rfl

/-- The server of a session runs as it does by itself, and takes the messages of the client
queue in their order. -/
theorem run_server {pid : UInt64} {clock : ℕ → UInt64} {names : UInt64 → Bytes} {es : List Event}
    {s : Session} (h : system.RunUnder (OnServer guard) (start pid clock names) es s) :
  ∃ evs, WebsocketProxy.system.RunUnder guard (.start pid clock) evs s.server ∧
    s.server.taken ≤ s.clientQueue.length ∧
    WebsocketProxy.messages evs = s.clientQueue.take s.server.taken
  := by
  induction h with
  | nil =>
      use []
      exact ⟨.nil, Nat.zero_le _, rfl⟩
  | @snoc es s ev s' _ hguard hstep ih =>
      obtain ⟨evs, hrun, hle, hmessages⟩ := ih
      cases ev with
      | server ev =>
          obtain ⟨hfinds, px, hpx, rfl⟩ := step_server hstep
          obtain ⟨hle', htake⟩ := takes_next hle hfinds hpx
          use evs ++ [ev]
          refine ⟨hrun.snoc hguard hpx, hle', ?_⟩
          rw [WebsocketProxy.messages_snoc, hmessages]
          apply htake.symm
      | client p ev =>
          obtain ⟨-, c, published, -, rfl⟩ := step_client hstep
          use evs
          refine ⟨hrun, ?_, ?_⟩
          · change s.server.taken ≤ (s.clientQueue ++ published).length
            rw [List.length_append]
            omega
          · change _ = (s.clientQueue ++ published).take s.server.taken
            rw [hmessages, List.take_append_of_le_length hle]

/-- The server of a session as it is by itself. -/
theorem reachable_taken {s : Session} (h : system.Reachable s) :
  WebsocketProxy.system.Reachable s.server ∧ s.server.taken ≤ s.clientQueue.length
  := by
  obtain ⟨_, es, ⟨pid, clock, names, rfl⟩, hrun⟩ := h
  have hrun : system.RunUnder (OnServer fun _ _ => True) (start pid clock names) es s :=
    hrun.mono fun _ ev _ => by cases ev <;> trivial
  obtain ⟨evs, hserver, htaken, -⟩ := run_server hrun
  exact ⟨⟨_, evs, ⟨pid, clock, rfl⟩, hserver⟩, htaken⟩

/-- Every client of a session runs as it does by itself, under its own process id. -/
theorem reachable_client {s : Session} (h : system.Reachable s) :
  ∀ p, WebsocketProxyClient.system.Reachable (s.clients p) ∧ (s.clients p).pid = p
  := by
  apply h.invariant
  · rintro _ ⟨pid, clock, names, rfl⟩ p
    constructor
    · apply TransitionSystem.ReachableUnder.initial
      exact ⟨p, names p, rfl⟩
    · rfl
  · intro s ev s' _ hs _ hstep p
    cases ev with
    | server ev =>
        obtain ⟨-, px, -, rfl⟩ := step_server hstep
        apply hs p
    | client q ev =>
        obtain ⟨-, c, published, hc, rfl⟩ := step_client hstep
        have hclients : (s.updateClient q (c, published)).clients = Function.update s.clients q c :=
          rfl
        rw [hclients]
        rcases eq_or_ne p q with rfl | hne
        · rw [Function.update_self]
          constructor
          · apply (hs p).1.step trivial (e := ev)
            apply congrArg (Option.map Prod.fst) hc
          · rw [(WebsocketProxyClient.perform_step hc).pid]
            exact (hs p).2
        · rw [Function.update_of_ne hne]
          apply hs p

end Session
