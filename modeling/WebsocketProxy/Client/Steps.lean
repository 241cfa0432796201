import WebsocketProxy.Client.Basic

/-!
# The steps of a client

`Step` lists the steps of a client with their conditions, and `Sees` what a step adds to what
was seen of the client, together with what it does to `websockets_`. What holds in whole runs
is derived from these two.
-/

namespace WebsocketProxyClient

variable {c c' : WebsocketProxyClient} {ev : Event} {published : List Message}

/-- The steps of a client: from `c`, an event leads to a client and publishes messages. -/
inductive Step (c : WebsocketProxyClient) :
    Event → WebsocketProxyClient → List Message → Prop
  | notConnected (hworker : c.worker = .loading) (hpid : c.serverPid = 0) : Step c .load c []
  | load (hworker : c.worker = .loading) (hpid : c.serverPid ≠ 0) :
      Step c .load { c with worker := .timing c.serverPid } []
  | takeTime {serverPid now} (hworker : c.worker = .timing serverPid) :
      Step c (.takeTime now) { c with worker := .reading serverPid now } []
  | readSome {serverPid now msg} (hworker : c.worker = .reading serverPid now) :
      Step c (.read (some msg)) (c.handleResult serverPid now msg) []
  | readNone {serverPid now} (hworker : c.worker = .reading serverPid now) :
      Step c (.read none) { c with worker := .beating now false } []
  | sendHeartbeat {now found sent} (hworker : c.worker = .beating now found) :
      Step c (.sendHeartbeat sent)
        { (c.sendHeartbeat now sent).1 with worker := .comparing now found }
        (c.sendHeartbeat now sent).2
  | compare {now found} (hworker : c.worker = .comparing now found) :
      Step c .compare { c with
        worker := if !found && c.isTimedOut now then .disconnecting else .loading } []
  | disconnect (hworker : c.worker = .disconnecting) :
      Step c .disconnect { c.giveUp with worker := .loading } []
  | rehash {websockets} (hperm : websockets.entries.Perm c.websockets.entries) :
      Step c (.rehash websockets) { c with websockets } []
  | tooLong {o} (hcaller : c.caller = .idle) (hlength : o.url.length > 255) :
      Step c (.openWebSocket o) (c.returns o.failed) []
  | connect {o} (hcaller : c.caller = .idle) (hpid : c.serverPid = 0) :
      Step c (.openWebSocket o) { c with caller := .spawning o } []
  | isConnected {o} (hcaller : c.caller = .idle) (hpid : c.serverPid ≠ 0) :
      Step c (.openWebSocket o) { c with caller := .connected o } []
  | spawned {o index} (hcaller : c.caller = .spawning o) :
      Step c (.spawnWebsocketsProxyServer (some index))
        { c with queues := true, serverQueueIndex := index, caller := .connecting o } []
  | notSpawned {o} (hcaller : c.caller = .spawning o) :
      Step c (.spawnWebsocketsProxyServer none) (c.returns o.failed) []
  | ready {o} (hcaller : c.caller = .connecting o) (hindex : c.serverQueueIndex = 0) :
      Step c (.waitForServerReady true) { c with serverQueueIndex := 1 } []
  | notReady {o} (hcaller : c.caller = .connecting o) (hindex : c.serverQueueIndex = 0) :
      Step c (.waitForServerReady false) (c.returns o.failed) []
  | register {o msg sent start} (hcaller : c.caller = .connecting o)
      (hindex : c.serverQueueIndex ≠ 0) :
      Step c (.register msg sent start)
        { c with lastHeartbeatTime := sent, caller := .waiting msg start (.register o) }
        [{ pid := c.pid, data := .register { name := c.name } }]
  | openAsync {o msg sent start} (hcaller : c.caller = .connected o) (hasync : o.async) :
      Step c (.sendOpenMessage msg sent start)
        ({ c with lastHeartbeatTime := sent }.returns (.openWebSocketAsync true))
        [{ pid := c.pid, data := .openWs { url := cString o.url, apiKey := cString o.apiKey } }]
  | openSync {o msg sent start} (hcaller : c.caller = .connected o) (hasync : ¬ o.async) :
      Step c (.sendOpenMessage msg sent start)
        { c with lastHeartbeatTime := sent, caller := .waiting msg start .openWs }
        [{ pid := c.pid, data := .openWs { url := cString o.url, apiKey := cString o.apiKey } }]
  | closeWebSocket {id msg sent start} (hcaller : c.caller = .idle) (hqueues : c.queues) :
      Step c (.closeWebSocket id msg sent start)
        { c with lastHeartbeatTime := sent, caller := .waiting msg start (.closeWs id) }
        [{ pid := c.pid, data := .closeWs { id := if id = 0 then c.id else id } }]
  | unregister {id sent} (hcaller : c.caller = .unregistering id) :
      Step c (.unregister sent) { c with lastHeartbeatTime := sent, caller := .forgetting id }
        [{ pid := c.pid, data := .unregister }]
  | forget {id} (hcaller : c.caller = .forgetting id) :
      Step c .forget ({ c with serverPid := 0 }.returns (.closeWebSocket id true)) []
  | subscribe {sub existing msg sent start} (hcaller : c.caller = .idle) (hqueues : c.queues) :
      Step c (.subscribe sub existing msg sent start)
        { c with lastHeartbeatTime := sent, caller := .waiting msg start (.subscribe existing) }
        [{ pid := c.pid, data := .subscribe { sub with existing := false } }]
  | unsubscribe {sub sent} (hcaller : c.caller = .idle) (hqueues : c.queues) :
      Step c (.unsubscribe sub sent) { c with lastHeartbeatTime := sent }
        [{ pid := c.pid
           data := .unsubscribe { sub with existing := false, type := SubscriptionType.none } }]
  | send {req sent} (hcaller : c.caller = .idle) (hqueues : c.queues) :
      Step c (.send req sent) { c with lastHeartbeatTime := sent }
        [{ pid := c.pid, data := .wsRequest req }]
  | setLogLevel {level sent} (hcaller : c.caller = .idle) (hqueues : c.queues) :
      Step c (.setLogLevel level sent) { c with lastHeartbeatTime := sent }
        [{ pid := c.pid, data := .logLevel level }]
  | wait {msg start req now sent} (hcaller : c.caller = .waiting msg start req)
      (htime : ¬ now - start > req.limit) :
      Step c (.wait now sent) (c.sendHeartbeat now sent).1 (c.sendHeartbeat now sent).2
  | timeout {msg start req now} (hcaller : c.caller = .waiting msg start req)
      (htime : now - start > req.limit) :
      Step c (.timeout now) (c.returns req.timedOut) []
  | answer {msg start req answer now} (hcaller : c.caller = .waiting msg start req)
      (hanswer : answer.status ≠ .pending) :
      Step c (.answer answer now) (c.handleAnswer req answer now) []

/-! ### What `perform` does -/

/-- A step of the worker. -/
def Event.ofWorker : Event → Bool
  | .load | .takeTime _ | .read _ | .sendHeartbeat _ | .compare | .disconnect => true
  | _ => false

/-- A public method is called. -/
def Event.Begins : Event → Prop
  | .openWebSocket _ | .closeWebSocket .. | .subscribe .. | .unsubscribe .. | .send .. => True
  | .setLogLevel .. => True
  | _ => False

/-- The event is a step of the caller in a call. -/
def Event.InCall : Event → Prop
  | .spawnWebsocketsProxyServer _ | .waitForServerReady _ | .register .. | .sendOpenMessage .. => True
  | .unregister _ | .forget | .wait .. | .timeout _ | .answer .. => True
  | _ => False

/-- What the worker does is a step. -/
theorem worker_step (hev : ev.ofWorker) (h : c.perform ev = some (c', published)) :
  Step c ev c' published
  := by
  cases ev with
  | load =>
      simp only [perform] at h
      split at h
      case h_1 hworker =>
        split at h
        case isTrue hpid =>
          cases h
          exact .notConnected hworker hpid
        case isFalse hpid =>
          cases h
          exact .load hworker hpid
      case h_2 => cases h
  | takeTime =>
      simp only [perform] at h
      split at h
      case h_1 hworker =>
        cases h
        exact .takeTime hworker
      case h_2 => cases h
  | read =>
      simp only [perform] at h
      split at h
      case h_1 hworker =>
        cases h
        exact .readSome hworker
      case h_2 hworker =>
        cases h
        exact .readNone hworker
      case h_3 => cases h
  | sendHeartbeat =>
      simp only [perform] at h
      split at h
      case h_1 hworker =>
        obtain ⟨rfl, rfl⟩ := Prod.mk.inj (Option.some.inj h)
        exact .sendHeartbeat hworker
      case h_2 => cases h
  | compare =>
      simp only [perform] at h
      split at h
      case h_1 hworker =>
        cases h
        exact .compare hworker
      case h_2 => cases h
  | disconnect =>
      simp only [perform] at h
      split at h
      case h_1 hworker =>
        cases h
        exact .disconnect hworker
      case h_2 => cases h
  | _ => cases hev

/-- A method that needs the queues is called when no other call is made and they are there. -/
theorem idle_of_call {caller : Caller} {queues : Bool} {x y : WebsocketProxyClient × List Message}
    (h : (match caller with | .idle => if queues then some x else none | _ => none) = some y) :
  caller = .idle ∧ queues ∧ x = y
  := by
  split at h
  case h_1 =>
    split at h
    case isTrue hqueues => exact ⟨rfl, hqueues, Option.some.inj h⟩
    case isFalse => cases h
  case h_2 => cases h

/-- The call of a method is a step. -/
theorem begin_step (hev : ev.Begins) (h : c.perform ev = some (c', published)) :
  Step c ev c' published
  := by
  cases ev with
  | openWebSocket =>
      simp only [perform] at h
      split at h
      case h_1 hcaller =>
        split at h
        case isTrue hlength =>
          cases h
          exact .tooLong hcaller hlength
        case isFalse =>
          split at h
          case isTrue hpid =>
            cases h
            exact .connect hcaller hpid
          case isFalse hpid =>
            cases h
            exact .isConnected hcaller hpid
      case h_2 => cases h
  | closeWebSocket =>
      obtain ⟨hcaller, hqueues, heq⟩ := idle_of_call h
      cases heq
      exact .closeWebSocket hcaller hqueues
  | subscribe =>
      obtain ⟨hcaller, hqueues, heq⟩ := idle_of_call h
      cases heq
      exact .subscribe hcaller hqueues
  | unsubscribe =>
      obtain ⟨hcaller, hqueues, heq⟩ := idle_of_call h
      cases heq
      exact .unsubscribe hcaller hqueues
  | send =>
      obtain ⟨hcaller, hqueues, heq⟩ := idle_of_call h
      cases heq
      exact .send hcaller hqueues
  | setLogLevel =>
      obtain ⟨hcaller, hqueues, heq⟩ := idle_of_call h
      cases heq
      exact .setLogLevel hcaller hqueues
  | _ => cases hev

/-- What the caller does in a call is a step. -/
theorem inCall_step (hev : ev.InCall) (h : c.perform ev = some (c', published)) :
  Step c ev c' published
  := by
  cases ev with
  | spawnWebsocketsProxyServer =>
      simp only [perform] at h
      split at h
      case h_1 hcaller =>
        cases h
        exact .spawned hcaller
      case h_2 hcaller =>
        cases h
        exact .notSpawned hcaller
      case h_3 => cases h
  | waitForServerReady found =>
      simp only [perform] at h
      split at h
      case h_1 hcaller =>
        split at h
        case isTrue => cases h
        case isFalse hindex =>
          cases found with
          | true =>
              cases h
              exact .ready hcaller (not_not.mp hindex)
          | false =>
              cases h
              exact .notReady hcaller (not_not.mp hindex)
      case h_2 => cases h
  | register =>
      simp only [perform] at h
      split at h
      case h_1 hcaller =>
        split at h
        case isTrue => cases h
        case isFalse hindex =>
          cases h
          exact .register hcaller hindex
      case h_2 => cases h
  | sendOpenMessage =>
      simp only [perform, sendOpenMessage] at h
      split at h
      case h_1 hcaller =>
        split at h
        case isTrue hasync =>
          cases h
          exact .openAsync hcaller hasync
        case isFalse hasync =>
          cases h
          exact .openSync hcaller hasync
      case h_2 => cases h
  | unregister =>
      simp only [perform] at h
      split at h
      case h_1 hcaller =>
        cases h
        exact .unregister hcaller
      case h_2 => cases h
  | forget =>
      simp only [perform] at h
      split at h
      case h_1 hcaller =>
        cases h
        exact .forget hcaller
      case h_2 => cases h
  | wait =>
      simp only [perform] at h
      split at h
      case h_1 hcaller =>
        split at h
        case isTrue => cases h
        case isFalse htime =>
          obtain ⟨hc, hpublished⟩ := Prod.ext_iff.mp (Option.some.inj h)
          dsimp only at hc hpublished
          rw [← hc, ← hpublished]
          exact .wait hcaller htime
      case h_2 => cases h
  | timeout =>
      simp only [perform] at h
      split at h
      case h_1 hcaller =>
        split at h
        case isTrue htime =>
          cases h
          exact .timeout hcaller htime
        case isFalse => cases h
      case h_2 => cases h
  | answer =>
      simp only [perform] at h
      split at h
      case h_1 hcaller =>
        split at h
        case isTrue => cases h
        case isFalse hanswer =>
          cases h
          exact .answer hcaller hanswer
      case h_2 => cases h
  | _ => cases hev

/-- What `perform` does is a step. -/
theorem perform_step (h : c.perform ev = some (c', published)) :
  Step c ev c' published
  := by
  cases ev with
  | load | takeTime | read | sendHeartbeat | compare | disconnect => exact worker_step rfl h
  | rehash =>
      simp only [perform] at h
      split at h
      case isTrue hperm =>
        cases h
        exact .rehash hperm
      case isFalse => cases h
  | openWebSocket | closeWebSocket | subscribe | unsubscribe | send | setLogLevel =>
      exact begin_step trivial h
  | spawnWebsocketsProxyServer | waitForServerReady | register | sendOpenMessage | unregister
  | forget | wait | timeout | answer =>
      exact inCall_step trivial h

/-- A step of the system is a step. -/
theorem system_step (h : system.step c ev = some c') :
  ∃ published, Step c ev c' published
  := by
  obtain ⟨⟨_, published⟩, hperform, rfl⟩ := Option.map_eq_some_iff.mp h
  use published, perform_step hperform

/-- The callbacks that report the close of connections. -/
def closes (ids : List UInt64) : List Observation :=
  ids.map (fun id => .callback (.onWebsocketClosed id))

/-! ### What functions leave as it is -/

theorem sendHeartbeat_keeps (c : WebsocketProxyClient) (now sent : UInt64) :
  ∃ time, (c.sendHeartbeat now sent).1 = { c with lastHeartbeatTime := time }
  := by
  unfold sendHeartbeat
  split
  · exact ⟨sent, rfl⟩
  · exact ⟨c.lastHeartbeatTime, rfl⟩

theorem handleMessage_keeps (c : WebsocketProxyClient) (msg : Message) :
  ∃ websockets trace, c.handleMessage msg = { c with websockets, trace }
  := by
  have hsame : ∃ websockets trace, c = { c with websockets, trace } := ⟨_, _, rfl⟩
  unfold handleMessage
  split
  · unfold handleWsOpen
    split
    · exact ⟨_, _, rfl⟩
    · exact hsame
  · unfold handleWsClose
    split
    · exact ⟨_, _, rfl⟩
    · exact hsame
  · unfold handleWsError
    split
    · exact ⟨_, _, rfl⟩
    · exact hsame
  · unfold handleWsData
    split
    · exact ⟨_, _, rfl⟩
    · exact hsame
  · exact hsame

theorem handleResult_keeps (c : WebsocketProxyClient) (serverPid now : UInt64) (msg : Message) :
  ∃ websockets trace worker, c.handleResult serverPid now msg = { c with
    serverQueueIndex := c.serverQueueIndex + 1
    lastServerHeartbeatTime := now
    websockets
    trace
    worker }
  := by
  unfold handleResult
  split
  · exact ⟨_, _, _, rfl⟩
  · obtain ⟨websockets, trace, h⟩ := handleMessage_keeps (c.noteMessage serverPid now msg) msg
    simp only [h]
    exact ⟨_, _, _, rfl⟩

theorem foldl_callback_trace (ids : List UInt64) :
  ∀ c : WebsocketProxyClient,
    ids.foldl (fun c id => c.callback (.onWebsocketClosed id)) c
      = { c with trace := c.trace ++ closes ids }
  := by
  induction ids with
  | nil =>
      intro c
      simp [closes]
  | cons id ids ih =>
      intro c
      rw [List.foldl_cons, ih, callback]
      simp [closes]

theorem giveUp_keeps (c : WebsocketProxyClient) :
  c.giveUp = { c with
    serverPid := 0
    websockets := ∅
    trace := c.trace ++ .callback .onWebsocketProxyServerDisconnected :: closes c.websockets.keys }
  := by
  rw [giveUp, foldl_callback_trace]
  simp [callback]

/-- The answer of the request sets `last_server_heartbeat_time_`. -/
def Request.storesTime : Request → Bool
  | register _ | openWs => true
  | closeWs _ | subscribe _ => false

/-- What the answer of a request can change. -/
theorem handleAnswer_keeps (c : WebsocketProxyClient) (req : Request) (answer : Message)
    (now : UInt64) :
  ∃ serverPid caller seen, c.handleAnswer req answer now = { c with
    serverPid, caller
    lastServerHeartbeatTime := if req.storesTime then now else c.lastServerHeartbeatTime
    trace := c.trace ++ seen }
  := by
  cases req with
  | register o =>
      simp only [handleAnswer]
      split
      · exact ⟨_, _, _, rfl⟩
      · exact ⟨_, _, [], by rw [List.append_nil]; rfl⟩
  | openWs =>
      simp only [handleAnswer]
      split
      · exact ⟨_, _, _, rfl⟩
      · exact ⟨_, _, _, rfl⟩
  | closeWs => exact ⟨_, _, [], by rw [List.append_nil]; rfl⟩
  | subscribe => exact ⟨_, _, _, rfl⟩

/-- No step changes the process id, nor `id_`. -/
theorem Step.ids (h : Step c ev c' published) :
  c'.pid = c.pid ∧ c'.id = c.id
  := by
  cases h with
  | @readSome serverPid now msg =>
      obtain ⟨websockets, trace, worker, hresult⟩ := handleResult_keeps c serverPid now msg
      rw [hresult]
      exact ⟨rfl, rfl⟩
  | @sendHeartbeat now found sent =>
      obtain ⟨time, htime⟩ := sendHeartbeat_keeps c now sent
      rw [htime]
      exact ⟨rfl, rfl⟩
  | disconnect =>
      rw [giveUp_keeps]
      exact ⟨rfl, rfl⟩
  | @wait msg start req now sent =>
      obtain ⟨time, htime⟩ := sendHeartbeat_keeps c now sent
      rw [htime]
      exact ⟨rfl, rfl⟩
  | @answer msg start req answer now =>
      obtain ⟨serverPid, caller, seen, hanswer⟩ := handleAnswer_keeps c req answer now
      rw [hanswer]
      exact ⟨rfl, rfl⟩
  | _ => exact ⟨rfl, rfl⟩

theorem Step.pid (h : Step c ev c' published) :
  c'.pid = c.pid
  := h.ids.1

/-- Nothing ever sets `id_`. -/
theorem reachable_id (h : system.Reachable c) :
  c.id = 0
  := by
  apply h.invariant (I := fun c => c.id = 0)
  · rintro c ⟨pid, name, rfl⟩
    rfl
  · intro c ev c' _ hid _ hstep
    obtain ⟨⟨c', published⟩, hperform, rfl⟩ := Option.map_eq_some_iff.mp hstep
    exact (perform_step hperform).ids.2.trans hid

/-- A client publishes messages under its own process id. -/
theorem Step.published_pid (h : Step c ev c' published) :
  ∀ m ∈ published, m.pid = c.pid
  := by
  have hbeat : ∀ now sent, ∀ m ∈ (c.sendHeartbeat now sent).2, m.pid = c.pid := by
    intro now sent m hm
    unfold WebsocketProxyClient.sendHeartbeat at hm
    split at hm
    · rw [List.mem_singleton.mp hm]
    · cases hm
  cases h with
  | sendHeartbeat | wait => apply hbeat
  | register | openAsync | openSync | closeWebSocket | unregister | subscribe | unsubscribe | send
  | setLogLevel =>
      intro m hm
      rw [List.mem_singleton.mp hm]
  | _ => exact fun m hm => absurd hm List.not_mem_nil

/-! ### What is read -/

/-- The worker reads messages of the server `pid`. -/
def Worker.Hears (pid : UInt64) : Worker → Prop
  | reading serverPid _ => serverPid = pid
  | _ => False

instance (pid : UInt64) (worker : Worker) : Decidable (worker.Hears pid) :=
  match worker with
  | .reading serverPid _ => inferInstanceAs (Decidable (serverPid = pid))
  | .loading | .timing _ | .beating .. | .comparing .. | .disconnecting =>
      inferInstanceAs (Decidable False)

/-- A client after its worker has read messages of its server. -/
def hear (c : WebsocketProxyClient) (msgs : List Message) : WebsocketProxyClient :=
  msgs.foldl handleMessage c

theorem mem_handleMessage {c : WebsocketProxyClient} {m : Message} {id : UInt64} :
  id ∈ (c.handleMessage m).websockets ↔
    match m.data with
    | .openWs req => (req.clientPid = c.pid ∧ id = req.id) ∨ id ∈ c.websockets
    | .closeWs req => id ≠ req.id ∧ id ∈ c.websockets
    | _ => id ∈ c.websockets
  := by
  cases hdata : m.data with
  | openWs req =>
      simp only [handleMessage, hdata, handleWsOpen]
      split
      case isTrue hpid =>
        simp only [callback, hpid, true_and]
        apply UnorderedMap.mem_emplace
      case isFalse hpid => simp only [hpid, false_and, false_or]
  | closeWs req =>
      simp only [handleMessage, hdata, handleWsClose]
      split
      case isTrue =>
        simp only [callback]
        apply AList.mem_erase
      case isFalse hid =>
        constructor
        · intro hmem
          exact ⟨fun heq => hid (heq ▸ hmem), hmem⟩
        · apply And.right
  | wsError m' =>
      simp only [handleMessage, hdata, handleWsError]
      split
      · rfl
      · rfl
  | wsData m' =>
      simp only [handleMessage, hdata, handleWsData]
      split
      · rfl
      · rfl
  | _ => simp only [handleMessage, hdata]

/-- A client that has fewer ids has fewer after it has read messages. -/
theorem hear_mono {msgs : List Message} {id : UInt64} :
  ∀ {c d : WebsocketProxyClient}, c.pid = d.pid → (id ∈ c.websockets → id ∈ d.websockets) →
    id ∈ (c.hear msgs).websockets → id ∈ (d.hear msgs).websockets
  := by
  induction msgs with
  | nil => exact fun _ hids => hids
  | cons m msgs ih =>
      intro c d hpid hids
      apply ih
      · obtain ⟨websockets, trace, hc⟩ := handleMessage_keeps c m
        obtain ⟨websockets', trace', hd⟩ := handleMessage_keeps d m
        rw [hc, hd]
        exact hpid
      · rw [mem_handleMessage, mem_handleMessage, hpid]
        cases m.data with
        | openWs req => exact Or.imp_right hids
        | closeWs req => exact And.imp_right hids
        | _ => exact hids

/-- The worker handles a message that it hears. -/
theorem mem_handleResult {c : WebsocketProxyClient} {serverPid now : UInt64} {m : Message}
    {id : UInt64} :
  id ∈ (c.handleResult serverPid now m).websockets ↔
    if serverPid = m.pid then id ∈ (c.handleMessage m).websockets else id ∈ c.websockets
  := by
  rcases eq_or_ne serverPid m.pid with heq | hne
  · simp only [handleResult, heq, ne_eq, not_true_eq_false, if_false, if_true, mem_handleMessage]
    rfl
  · simp only [handleResult, if_pos hne, if_neg hne]
    rfl

/-- A step moves the client along the server queue when a message is read, and when it connects.
No other step gives it ids. -/
theorem Step.moves (h : Step c ev c' published) :
  (∃ serverPid now msg, c.worker = .reading serverPid now ∧ ev = .read (some msg) ∧
    c' = c.handleResult serverPid now msg) ∨
  (∃ index, ev = .spawnWebsocketsProxyServer (some index) ∧ c'.serverQueueIndex = index ∧
    c'.websockets = c.websockets) ∨
  (c.serverQueueIndex = 0 ∧ c'.serverQueueIndex = 1 ∧ c'.websockets = c.websockets) ∨
  (c'.serverQueueIndex = c.serverQueueIndex ∧ ∀ id, id ∈ c'.websockets → id ∈ c.websockets)
  := by
  have hstays : ∀ {d : WebsocketProxyClient}, d.serverQueueIndex = c.serverQueueIndex →
      d.websockets = c.websockets → d.serverQueueIndex = c.serverQueueIndex ∧
        ∀ id, id ∈ d.websockets → id ∈ c.websockets := by
    intro d hindex hids
    rw [hids]
    exact ⟨hindex, fun _ hid => hid⟩
  cases h with
  | @readSome serverPid now msg hworker => exact Or.inl ⟨serverPid, now, msg, hworker, rfl, rfl⟩
  | @spawned o index hcaller => exact Or.inr (Or.inl ⟨index, rfl, rfl, rfl⟩)
  | ready hcaller hindex => exact Or.inr (Or.inr (Or.inl ⟨hindex, rfl, rfl⟩))
  | disconnect =>
      right; right; right
      rw [giveUp_keeps]
      exact ⟨rfl, fun id hid => absurd hid (AList.notMem_empty id)⟩
  | rehash hperm =>
      right; right; right
      exact ⟨rfl, fun id hid => (hperm.map Sigma.fst).mem_iff.mp hid⟩
  | @sendHeartbeat now found sent =>
      right; right; right
      obtain ⟨time, htime⟩ := sendHeartbeat_keeps c now sent
      rw [htime]
      apply hstays rfl rfl
  | @wait msg start req now sent =>
      right; right; right
      obtain ⟨time, htime⟩ := sendHeartbeat_keeps c now sent
      rw [htime]
      apply hstays rfl rfl
  | @answer msg start req answer now =>
      right; right; right
      obtain ⟨serverPid, caller, seen, hanswer⟩ := handleAnswer_keeps c req answer now
      rw [hanswer]
      apply hstays rfl rfl
  | _ => exact Or.inr (Or.inr (Or.inr (hstays rfl rfl)))

/-- A caller stops waiting when the time is up, and with the answer. -/
theorem Step.stops_waiting (h : Step c ev c' published) {n : ℕ} {start : UInt64} {req : Request}
    (hbefore : c.caller = .waiting n start req) (hafter : c'.caller ≠ c.caller) :
  (∃ now, ev = .timeout now ∧ c' = c.returns req.timedOut) ∨
    ∃ answer now, ev = .answer answer now ∧ answer.status ≠ .pending ∧
      c' = c.handleAnswer req answer now
  := by
  have hreq : ∀ {msg start' req'}, c.caller = .waiting msg start' req' → req' = req := by
    intro msg start' req' hcaller
    exact (Caller.waiting.inj (hcaller.symm.trans hbefore)).2.2
  cases h with
  | @timeout msg start' req' now hcaller =>
      left
      use now, rfl
      rw [hreq hcaller]
  | @answer msg start' req' answer now hcaller hanswer =>
      right
      use answer, now, rfl, hanswer
      rw [hreq hcaller]
  | @readSome serverPid now msg =>
      obtain ⟨websockets, trace, worker, hresult⟩ := handleResult_keeps c serverPid now msg
      rw [hresult] at hafter
      exact absurd rfl hafter
  | @sendHeartbeat now found sent =>
      obtain ⟨time, htime⟩ := sendHeartbeat_keeps c now sent
      rw [htime] at hafter
      exact absurd rfl hafter
  | @wait msg start req now sent =>
      obtain ⟨time, htime⟩ := sendHeartbeat_keeps c now sent
      rw [htime] at hafter
      exact absurd rfl hafter
  | disconnect =>
      rw [giveUp_keeps] at hafter
      exact absurd rfl hafter
  | notConnected | load | takeTime | readNone | compare | rehash => exact absurd rfl hafter
  | tooLong hcaller | connect hcaller | isConnected hcaller | spawned hcaller
  | notSpawned hcaller | ready hcaller | notReady hcaller | register hcaller | openAsync hcaller
  | openSync hcaller | closeWebSocket hcaller | unregister hcaller | forget hcaller
  | subscribe hcaller | unsubscribe hcaller | send hcaller | setLogLevel hcaller =>
      rw [hbefore] at hcaller
      cases hcaller

/-! ### What is seen -/

/-- What a step that leads from `c` to `c'` can add to what was seen, with the ids there are
afterwards. -/
inductive Sees (c : WebsocketProxyClient) (ev : Event) (c' : WebsocketProxyClient) :
    List Observation → Prop
  | nothing (hids : ∀ id, id ∈ c'.websockets ↔ id ∈ c.websockets) : Sees c ev c' []
  | returned {result : Result}
      (hclosed : ∀ id, result = .closeWebSocket id true → ev = .forget ∧ c.caller = .forgetting id)
      (hids : ∀ id, id ∈ c'.websockets ↔ id ∈ c.websockets) :
      Sees c ev c' [.returned result]
  /-- A message is read that nothing is called for. -/
  | ignored {serverPid : UInt64} {msg : Message} (hev : ev = .read (some msg))
      (hdata : ∀ m, msg.data = .wsData m → serverPid = msg.pid → m.id ∉ c.websockets)
      (hids : ∀ id, id ∈ c'.websockets ↔ id ∈ c.websockets) :
      Sees c ev c' [.read serverPid msg]
  | opened {msg : Message} {m : WsOpen} (hev : ev = .read (some msg)) (hmsg : msg.data = .openWs m)
      (hpid : m.clientPid = c.pid)
      (hids : ∀ id, id ∈ c'.websockets ↔ id = m.id ∨ id ∈ c.websockets) :
      Sees c ev c' [.read msg.pid msg, .callback (.onWebsocketOpened m.id)]
  | closed {msg : Message} {m : WsClose} (hev : ev = .read (some msg)) (hmsg : msg.data = .closeWs m)
      (hid : m.id ∈ c.websockets)
      (hids : ∀ id, id ∈ c'.websockets ↔ id ≠ m.id ∧ id ∈ c.websockets) :
      Sees c ev c' [.read msg.pid msg, .callback (.onWebsocketClosed m.id)]
  | error {msg : Message} {m : WsError} (hev : ev = .read (some msg)) (hmsg : msg.data = .wsError m)
      (hid : m.id ∈ c.websockets) (hids : ∀ id, id ∈ c'.websockets ↔ id ∈ c.websockets) :
      Sees c ev c' [.read msg.pid msg, .callback (.onWebsocketError m.id m.err m.len)]
  | data {msg : Message} {m : WsData} (hev : ev = .read (some msg)) (hmsg : msg.data = .wsData m)
      (hid : m.id ∈ c.websockets) (hids : ∀ id, id ∈ c'.websockets ↔ id ∈ c.websockets) :
      Sees c ev c'
        [.read msg.pid msg, .callback (.onWebsocketData m.id m.data m.len m.remaining)]
  | disconnected {ids : List UInt64} (hev : ev = .disconnect) (hnodup : ids.Nodup)
      (hopen : ∀ id, id ∈ ids ↔ id ∈ c.websockets) (hids : ∀ id, id ∉ c'.websockets) :
      Sees c ev c' (.callback .onWebsocketProxyServerDisconnected :: closes ids)

/-- What is seen when the worker reads a message. -/
theorem handleResult_sees {serverPid now : UInt64} {msg : Message} :
  ∃ seen, (c.handleResult serverPid now msg).trace = c.trace ++ seen ∧
    Sees c (.read (some msg)) (c.handleResult serverPid now msg) seen
  := by
  have hignored : ∀ {worker : Worker},
      (∀ m, msg.data = .wsData m → serverPid = msg.pid → m.id ∉ c.websockets) →
      ∃ seen, c.trace ++ [.read serverPid msg] = c.trace ++ seen ∧
        Sees c (.read (some msg)) { c with
          serverQueueIndex := c.serverQueueIndex + 1
          trace := c.trace ++ [.read serverPid msg]
          lastServerHeartbeatTime := now
          worker } seen := by
    intro worker hdata
    use [.read serverPid msg], rfl
    exact .ignored rfl hdata (fun _ => Iff.rfl)
  unfold handleResult
  split
  case isTrue hne =>
    apply hignored
    intro m _ hpid
    exact absurd hpid hne
  case isFalse heq =>
    obtain rfl := not_not.mp heq
    dsimp only [handleMessage]
    cases hdata : msg.data with
    | openWs m =>
        dsimp only [handleWsOpen]
        split
        case isTrue hpid =>
          use [.read msg.pid msg, .callback (.onWebsocketOpened m.id)]
          constructor
          · simp [noteMessage, callback]
          · exact .opened rfl hdata hpid (fun _ => UnorderedMap.mem_emplace)
        case isFalse =>
          apply hignored
          intro m' hm'
          rw [hdata] at hm'
          cases hm'
    | closeWs m =>
        dsimp only [handleWsClose]
        split
        case isTrue hid =>
          use [.read msg.pid msg, .callback (.onWebsocketClosed m.id)]
          constructor
          · simp [noteMessage, callback]
          · exact .closed rfl hdata hid (fun _ => AList.mem_erase)
        case isFalse =>
          apply hignored
          intro m' hm'
          rw [hdata] at hm'
          cases hm'
    | wsError m =>
        dsimp only [handleWsError]
        split
        case isTrue hid =>
          use [.read msg.pid msg, .callback (.onWebsocketError m.id m.err m.len)]
          constructor
          · simp [noteMessage, callback]
          · exact .error rfl hdata hid (fun _ => Iff.rfl)
        case isFalse =>
          apply hignored
          intro m' hm'
          rw [hdata] at hm'
          cases hm'
    | wsData m =>
        dsimp only [handleWsData]
        split
        case isTrue hid =>
          use [.read msg.pid msg, .callback (.onWebsocketData m.id m.data m.len m.remaining)]
          constructor
          · simp [noteMessage, callback]
          · exact .data rfl hdata hid (fun _ => Iff.rfl)
        case isFalse hid =>
          apply hignored
          intro m' hm' _
          rw [hdata] at hm'
          cases hm'
          exact hid
    | _ =>
        apply hignored
        intro m' hm'
        rw [hdata] at hm'
        cases hm'

/-- What is seen when the server is given up. -/
theorem giveUp_sees {worker : Worker} :
  ∃ seen, c.giveUp.trace = c.trace ++ seen ∧
    Sees c .disconnect { c.giveUp with worker } seen
  := by
  use .callback .onWebsocketProxyServerDisconnected :: closes c.websockets.keys
  constructor
  · rw [giveUp_keeps]
  · apply Sees.disconnected rfl
    · apply AList.keys_nodup c.websockets
    · exact fun id => AList.mem_keys.symm
    · exact fun id => AList.notMem_empty id

theorem sees_nothing (htrace : c'.trace = c.trace) (hids : c'.websockets = c.websockets) :
  ∃ seen, c'.trace = c.trace ++ seen ∧ Sees c ev c' seen
  := by
  use []
  constructor
  · rw [htrace, List.append_nil]
  · apply Sees.nothing
    rw [hids]
    exact fun _ => Iff.rfl

theorem sees_returned {result : Result} (htrace : c'.trace = c.trace ++ [.returned result])
    (hids : c'.websockets = c.websockets) (hclosed : ∀ id, result ≠ .closeWebSocket id true) :
  ∃ seen, c'.trace = c.trace ++ seen ∧ Sees c ev c' seen
  := by
  use [.returned result], htrace
  apply Sees.returned
  · intro id hid
    exact absurd hid (hclosed id)
  · rw [hids]
    exact fun _ => Iff.rfl

theorem Opening.failed_ne (o : Opening) (id : UInt64) :
  o.failed ≠ .closeWebSocket id true
  := by
  unfold failed
  split
  · exact fun h => Result.noConfusion h
  · exact fun h => Result.noConfusion h

theorem Request.timedOut_ne (req : Request) (id : UInt64) :
  req.timedOut ≠ .closeWebSocket id true
  := by
  cases req with
  | register o => exact o.failed_ne id
  | closeWs => exact fun h => Bool.noConfusion (Result.closeWebSocket.inj h).2
  | openWs | subscribe => exact fun h => Result.noConfusion h

/-- The caller goes on with the answer of a request. -/
theorem handleAnswer_sees {req : Request} {answer : Message} {now : UInt64} :
  ∃ seen, (c.handleAnswer req answer now).trace = c.trace ++ seen ∧
    Sees c ev (c.handleAnswer req answer now) seen
  := by
  cases req with
  | register o =>
      dsimp only [handleAnswer]
      split
      · exact sees_returned rfl rfl o.failed_ne
      · exact sees_nothing rfl rfl
  | openWs =>
      dsimp only [handleAnswer]
      split
      · exact sees_returned rfl rfl (fun _ h => Result.noConfusion h)
      · exact sees_returned rfl rfl (fun _ h => Result.noConfusion h)
  | closeWs => exact sees_nothing rfl rfl
  | subscribe => exact sees_returned rfl rfl (fun _ h => Result.noConfusion h)

/-- What is seen in a step. -/
theorem Step.sees (h : Step c ev c' published) :
  ∃ seen, c'.trace = c.trace ++ seen ∧ Sees c ev c' seen
  := by
  cases h with
  | readSome => apply handleResult_sees
  | disconnect => apply giveUp_sees
  | rehash hperm =>
      use [], (List.append_nil _).symm
      apply Sees.nothing
      intro id
      exact (hperm.map Sigma.fst).mem_iff
  | @sendHeartbeat now found sent _ =>
      obtain ⟨time, htime⟩ := sendHeartbeat_keeps c now sent
      rw [htime]
      exact sees_nothing rfl rfl
  | @wait msg start req now sent =>
      obtain ⟨time, htime⟩ := sendHeartbeat_keeps c now sent
      rw [htime]
      exact sees_nothing rfl rfl
  | @tooLong o | @notSpawned o | @notReady o => exact sees_returned rfl rfl o.failed_ne
  | openAsync => exact sees_returned rfl rfl (fun _ h => nomatch h)
  | @timeout msg start req => exact sees_returned rfl rfl req.timedOut_ne
  | answer => apply handleAnswer_sees
  | @forget id hcaller =>
      use [.returned (.closeWebSocket id true)], rfl
      apply Sees.returned
      · intro id' hid'
        obtain ⟨rfl, -⟩ := Result.closeWebSocket.inj hid'
        exact ⟨rfl, hcaller⟩
      · exact fun _ => Iff.rfl
  | _ => exact sees_nothing rfl rfl

end WebsocketProxyClient
