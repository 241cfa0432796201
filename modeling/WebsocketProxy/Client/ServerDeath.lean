import WebsocketProxy.Client.Rounds

/-!
# Detecting that the server died

A client is compared with one that makes the same turns, but reads nothing where the other
reads a message of a process that is not the connected server. Both call the same callbacks
as long as the messages of other processes do not hide that the server is silent
(`server_death_own`): every message the worker reads counts as a sign of life of the server,
whoever wrote it.
-/

namespace WebsocketProxyClient

namespace Observation

def isCallback : Observation → Bool
  | callback _ => true
  | _ => false

@[simp] theorem isCallback_callback (cb : WebsocketProxyCallback) :
  (callback cb).isCallback = true
  := rfl

@[simp] theorem isCallback_read (serverPid : UInt64) (msg : Message) :
  (read serverPid msg).isCallback = false
  := rfl

@[simp] theorem isCallback_returned (result : Result) :
  (returned result).isCallback = false
  := rfl

end Observation

/-- The callbacks of a client so far. -/
def callbacks (c : WebsocketProxyClient) : List Observation := c.trace.filter Observation.isCallback

/-- The turn, with nothing read where a message of another process than the connected server
is read. -/
def ownTurn (c : WebsocketProxyClient) : Turn → Turn
  | .round now sent (some msg) =>
      if msg.pid = c.serverPid then .round now sent (some msg) else .round now sent none
  | t => t

/-- The time the caller stores for the server. -/
def storedTime (c : WebsocketProxyClient) : Event → Option UInt64
  | .answer _ now =>
      match c.caller with
      | .waiting _ _ (.register _) => some now
      | .waiting _ _ .openWs => some now
      | _ => none
  | _ => none

/-- When the connected server was last heard of, after a turn. -/
def ownTime (c : WebsocketProxyClient) (own : UInt64) : Turn → UInt64
  | .round now _ (some msg) => if c.serverPid ≠ 0 ∧ msg.pid = c.serverPid then now else own
  | .round _ _ none => own
  | .caller ev => (c.storedTime ev).getD own

/-- A client, the client that reads the messages of its own server only, and the time the
former's server was last heard of. -/
structure Compared where
  actual : WebsocketProxyClient
  erased : WebsocketProxyClient
  own : UInt64 := 0

/-- Both clients make their turns side by side. -/
def comparison : TransitionSystem Compared Turn where
  initial s := ∃ pid name, s = { actual := start pid name, erased := start pid name }
  step s t := do
    let actual ← s.actual.turn t
    let erased ← s.erased.turn (s.actual.ownTurn t)
    return { actual, erased, own := s.actual.ownTime s.own t }

/-- Where the worker reads a message of another process, the own server is not silent for too
long; and where it reads nothing, it decides as if it had read only messages of its own
server. -/
def HeedsOwn (s : Compared) : Turn → Prop
  | .round now _ (some msg) =>
      s.actual.serverPid ≠ 0 → msg.pid ≠ s.actual.serverPid → isSilent s.own now = false
  | .round now _ none =>
      s.actual.serverPid ≠ 0 → s.actual.isTimedOut now = isSilent s.own now
  | .caller _ => True

instance (s : Compared) (t : Turn) : Decidable (HeedsOwn s t) :=
  match t with
  | .round now _ (some msg) => inferInstanceAs (Decidable
      (s.actual.serverPid ≠ 0 → msg.pid ≠ s.actual.serverPid → isSilent s.own now = false))
  | .round now _ none => inferInstanceAs (Decidable
      (s.actual.serverPid ≠ 0 → s.actual.isTimedOut now = isSilent s.own now))
  | .caller _ => inferInstanceAs (Decidable True)

/-! ### What both clients have in common -/

/-- A client without the times, and without what was seen beside callbacks. -/
def outline (c : WebsocketProxyClient) : WebsocketProxyClient :=
  { c with
    serverQueueIndex := min c.serverQueueIndex 1
    lastHeartbeatTime := 0
    lastServerHeartbeatTime := 0
    trace := c.callbacks }

theorem callback_outline (c : WebsocketProxyClient) (cb : WebsocketProxyCallback) :
  (c.callback cb).outline = c.outline.callback cb
  := by
  simp [outline, callback, callbacks]

theorem handleMessage_outline (c : WebsocketProxyClient) (msg : Message) :
  (c.handleMessage msg).outline = c.outline.handleMessage msg
  := by
  unfold handleMessage
  split
  · unfold handleWsOpen
    split
    case isTrue h => exact (callback_outline _ _).trans (if_pos h).symm
    case isFalse h => exact (if_neg h).symm
  · unfold handleWsClose
    split
    case isTrue h => exact (callback_outline _ _).trans (if_pos h).symm
    case isFalse h => exact (if_neg h).symm
  · unfold handleWsError
    split
    case isTrue h => exact (callback_outline _ _).trans (if_pos h).symm
    case isFalse h => exact (if_neg h).symm
  · unfold handleWsData
    split
    case isTrue h => exact (callback_outline _ _).trans (if_pos h).symm
    case isFalse h => exact (if_neg h).symm
  · rfl

/-- Giving a server up calls the callbacks for it and for the connections. -/
theorem giveUp_callbacks (c : WebsocketProxyClient) :
  c.giveUp.callbacks
    = c.callbacks ++ .callback .onWebsocketProxyServerDisconnected :: closes c.websockets.keys
  := by
  have hcloses : (closes c.websockets.keys).filter Observation.isCallback = closes c.websockets.keys := by
    apply List.filter_eq_self.mpr
    intro o ho
    obtain ⟨id, -, rfl⟩ := List.mem_map.mp ho
    rfl
  rw [giveUp_keeps, callbacks, List.filter_append, List.filter_cons_of_pos rfl, hcloses]
  rfl

theorem giveUp_outline (c : WebsocketProxyClient) :
  c.giveUp.outline = c.outline.giveUp
  := by
  rw [outline, giveUp_callbacks, giveUp_keeps, giveUp_keeps]
  rfl

theorem sendHeartbeat_outline (c : WebsocketProxyClient) (now sent : UInt64) :
  (c.sendHeartbeat now sent).1.outline = c.outline
  := by
  unfold sendHeartbeat
  split
  · rfl
  · rfl

theorem returns_outline (c : WebsocketProxyClient) (result : Result) :
  (c.returns result).outline = { c.outline with caller := .idle }
  := by
  simp [outline, returns, callbacks]

/-- A message that is read is a callback only through its handling. -/
theorem noteMessage_outline {c : WebsocketProxyClient} (hindex : c.serverQueueIndex ≠ 0)
    (serverPid now : UInt64) (msg : Message) :
  (c.noteMessage serverPid now msg).outline = c.outline
  := by
  have hmin : min (c.serverQueueIndex + 1) 1 = min c.serverQueueIndex 1 := by omega
  simp only [outline, noteMessage, callbacks, hmin, List.filter_append, List.filter_cons,
    List.filter_nil, Observation.isCallback_read, Bool.false_eq_true, if_false, List.append_nil]

theorem outline_outline (c : WebsocketProxyClient) :
  c.outline.outline = c.outline
  := by
  simp [outline, callbacks]

theorem handleAnswer_outline (c : WebsocketProxyClient) (req : Request) (answer : Message)
    (now : UInt64) :
  (c.handleAnswer req answer now).outline = (c.outline.handleAnswer req answer now).outline
  := by
  cases req with
  | register o =>
      simp only [handleAnswer]
      split
      · rw [returns_outline, returns_outline]
        simp [outline, callbacks]
      · simp [outline, callbacks]
  | openWs =>
      simp only [handleAnswer]
      split
      · rw [returns_outline, returns_outline]
        simp [outline, callbacks]
      · rw [returns_outline, returns_outline]
        simp [outline, callbacks]
  | closeWs id => simp [handleAnswer, outline, callbacks]
  | subscribe =>
      simp only [handleAnswer]
      rw [returns_outline, returns_outline, outline_outline]

/-- What a step of the caller does depends on what clients have in common only. -/
theorem caller_outline {ev : Event} (hev : ev.ofWorker = false) (c : WebsocketProxyClient) :
  (system.step c ev).map outline = (system.step c.outline ev).map outline
  := by
  have hcaller : c.outline.caller = c.caller := rfl
  have hpid : c.outline.serverPid = c.serverPid := rfl
  have hqueues : c.outline.queues = c.queues := rfl
  have hwebsockets : c.outline.websockets = c.websockets := rfl
  have hindex : c.outline.serverQueueIndex = 0 ↔ c.serverQueueIndex = 0 := by
    change min c.serverQueueIndex 1 = 0 ↔ c.serverQueueIndex = 0
    omega
  simp only [system]
  cases ev with
  | load | takeTime | read | sendHeartbeat | compare | disconnect => cases hev
  | rehash websockets =>
      simp only [perform, hwebsockets]
      split
      · simp [outline, callbacks]
      · rfl
  | openWebSocket o =>
      simp only [perform, hcaller, hpid]
      cases c.caller with
      | idle =>
          simp only [Option.map_some]
          split
          · rw [returns_outline, returns_outline, outline_outline]
          · split
            · simp [outline, callbacks]
            · simp [outline, callbacks]
      | _ => rfl
  | spawnWebsocketsProxyServer index =>
      simp only [perform, hcaller]
      cases c.caller with
      | spawning o =>
          cases index with
          | some index => simp [outline, callbacks]
          | none =>
              simp only [Option.map_some]
              rw [returns_outline, returns_outline, outline_outline]
      | _ => rfl
  | waitForServerReady found =>
      simp only [perform, hcaller, Ne, hindex]
      cases c.caller with
      | connecting o =>
          simp only
          split
          · rfl
          · split
            · simp [outline, callbacks]
            · simp only [Option.map_some]
              rw [returns_outline, returns_outline, outline_outline]
      | _ => rfl
  | register msg sent start =>
      simp only [perform, hcaller, hindex]
      cases c.caller with
      | connecting o =>
          simp only
          split
          · rfl
          · simp [outline, callbacks, ask, sendMessage]
      | _ => rfl
  | sendOpenMessage msg sent start =>
      simp only [perform, hcaller]
      cases c.caller with
      | connected o =>
          simp only [sendOpenMessage]
          split
          · simp [sendMessage, returns, outline, callbacks]
          · simp [outline, callbacks, ask, sendMessage]
      | _ => rfl
  | closeWebSocket | subscribe | unsubscribe | send | setLogLevel =>
      simp only [perform, hcaller, hqueues]
      cases c.caller with
      | idle =>
          simp only
          split
          · simp [outline, callbacks, ask, sendMessage]
          · rfl
      | _ => rfl
  | unregister sent =>
      simp only [perform, hcaller]
      cases c.caller with
      | unregistering id => simp [outline, callbacks, sendMessage]
      | _ => rfl
  | forget =>
      simp only [perform, hcaller]
      cases c.caller with
      | forgetting id => simp [returns, outline, callbacks]
      | _ => rfl
  | wait now sent =>
      simp only [perform, hcaller]
      cases c.caller with
      | waiting msg start req =>
          simp only
          split
          · rfl
          · simp only [Option.map_some]
            rw [sendHeartbeat_outline, sendHeartbeat_outline, outline_outline]
      | _ => rfl
  | timeout now =>
      simp only [perform, hcaller]
      cases c.caller with
      | waiting msg start req =>
          simp only
          split
          · simp only [Option.map_some]
            rw [returns_outline, returns_outline, outline_outline]
          · rfl
      | _ => rfl
  | answer answer now =>
      simp only [perform, hcaller]
      cases c.caller with
      | waiting msg start req =>
          simp only
          split
          · rfl
          · rw [Option.map_some, Option.map_some, Option.map_some, Option.map_some,
              handleAnswer_outline]
      | _ => rfl

/-! ### Rounds -/

theorem sendHeartbeat_isTimedOut (c : WebsocketProxyClient) (now sent time : UInt64) :
  (c.sendHeartbeat now sent).1.isTimedOut time = c.isTimedOut time
  := by
  obtain ⟨beat, hbeat⟩ := sendHeartbeat_keeps c now sent
  rw [hbeat]
  rfl

/-- A round in which nothing is read. -/
theorem iterate_none_outline {c : WebsocketProxyClient} (hconnected : c.serverPid ≠ 0)
    (hworker : c.worker = .loading) (now sent : UInt64) :
  (c.iterate now sent none).outline =
    if c.isTimedOut now then { c.outline.giveUp with worker := .loading } else c.outline
  := by
  have hloading : { c.outline with worker := .loading } = c.outline := by
    rw [← hworker]
    rfl
  rw [iterate, if_neg hconnected]
  simp only [sendHeartbeat_isTimedOut]
  split
  · change { (c.sendHeartbeat now sent).1.giveUp.outline with worker := .loading } = _
    rw [giveUp_outline, sendHeartbeat_outline]
  · change { (c.sendHeartbeat now sent).1.outline with worker := .loading } = _
    rw [sendHeartbeat_outline, hloading]

/-- A round in which a message of another process is read. -/
theorem iterate_other_outline {c : WebsocketProxyClient} (hconnected : c.serverPid ≠ 0)
    (hworker : c.worker = .loading) (hindex : c.serverQueueIndex ≠ 0) (now sent : UInt64)
    {msg : Message} (hpid : msg.pid ≠ c.serverPid) :
  (c.iterate now sent (some msg)).outline = c.outline
  := by
  have hloading : { c.outline with worker := .loading } = c.outline := by
    rw [← hworker]
    rfl
  rw [iterate, if_neg hconnected]
  simp only [handleResult]
  rw [if_pos hpid.symm, if_pos hpid.symm]
  change { (c.noteMessage c.serverPid now msg).outline with worker := .loading } = _
  rw [noteMessage_outline hindex, hloading]

/-- A round in which a message of the connected server is read. -/
theorem iterate_own_outline {c : WebsocketProxyClient} (hconnected : c.serverPid ≠ 0)
    (now sent : UInt64) {msg : Message} (hpid : msg.pid = c.serverPid) :
  (c.iterate now sent (some msg)).outline
    = { { c.outline with serverQueueIndex := 1 }.handleMessage msg with worker := .loading }
  := by
  have hnote : (c.noteMessage c.serverPid now msg).outline
      = { c.outline with serverQueueIndex := 1 } := by
    have hmin : min (c.serverQueueIndex + 1) 1 = 1 := by omega
    simp only [outline, noteMessage, callbacks, hmin, List.filter_append, List.filter_cons,
      List.filter_nil, Observation.isCallback_read, Bool.false_eq_true, if_false, List.append_nil]
  rw [iterate, if_neg hconnected]
  simp only
  rw [if_neg (not_not.mpr hpid.symm)]
  change { ((c.handleResult c.serverPid now msg).sendHeartbeat now sent).1.outline with
    worker := .loading } = _
  rw [sendHeartbeat_outline, handleResult, if_neg (not_not.mpr hpid.symm)]
  change { ((c.noteMessage c.serverPid now msg).handleMessage msg).outline with
    worker := .loading } = _
  rw [handleMessage_outline, hnote]

/-! ### The time of the server -/

/-- The time for the server that a step of the caller leaves. -/
theorem caller_time {ev : Event} {c c' : WebsocketProxyClient} (hev : ev.ofWorker = false)
    (h : system.step c ev = some c') :
  c'.lastServerHeartbeatTime = (c.storedTime ev).getD c.lastServerHeartbeatTime
  := by
  obtain ⟨published, hstep⟩ := system_step h
  cases hstep with
  | notConnected | load | takeTime | readSome | readNone | sendHeartbeat | compare | disconnect =>
      cases hev
  | @wait msg start req now sent =>
      obtain ⟨time, htime⟩ := sendHeartbeat_keeps c now sent
      rw [htime]
      rfl
  | @answer msg start req answer now hcaller =>
      simp only [storedTime, hcaller]
      obtain ⟨serverPid, caller, seen, hanswer⟩ := handleAnswer_keeps c req answer now
      rw [hanswer]
      cases req with
      | register | openWs | closeWs | subscribe => rfl
  | _ => rfl

/-- A step of the caller leaves the worker where it is. -/
theorem caller_worker {ev : Event} {c c' : WebsocketProxyClient} (hev : ev.ofWorker = false)
    (h : system.step c ev = some c') :
  c'.worker = c.worker
  := by
  obtain ⟨published, hstep⟩ := system_step h
  cases hstep with
  | notConnected | load | takeTime | readSome | readNone | sendHeartbeat | compare | disconnect =>
      cases hev
  | @wait msg start req now sent =>
      obtain ⟨time, htime⟩ := sendHeartbeat_keeps c now sent
      rw [htime]
  | @answer msg start req answer now =>
      obtain ⟨serverPid, caller, seen, hanswer⟩ := handleAnswer_keeps c req answer now
      rw [hanswer]
  | _ => rfl

theorem giveUp_time (c : WebsocketProxyClient) :
  c.giveUp.lastServerHeartbeatTime = c.lastServerHeartbeatTime
  := by
  rw [giveUp_keeps]

theorem sendHeartbeat_time (c : WebsocketProxyClient) (now sent : UInt64) :
  (c.sendHeartbeat now sent).1.lastServerHeartbeatTime = c.lastServerHeartbeatTime
  := by
  obtain ⟨time, htime⟩ := sendHeartbeat_keeps c now sent
  rw [htime]

/-- A round in which nothing is read leaves the time for the server as it was. -/
theorem iterate_none_time (c : WebsocketProxyClient) (now sent : UInt64) :
  (c.iterate now sent none).lastServerHeartbeatTime = c.lastServerHeartbeatTime
  := by
  unfold iterate
  split
  · rfl
  · dsimp only
    split
    · rw [giveUp_time, sendHeartbeat_time]
    · rw [sendHeartbeat_time]

/-- A round in which a message is read stores the time for the server. -/
theorem iterate_some_time {c : WebsocketProxyClient} (hconnected : c.serverPid ≠ 0)
    (now sent : UInt64) (msg : Message) :
  (c.iterate now sent (some msg)).lastServerHeartbeatTime = now
  := by
  have hhandle : (c.handleResult c.serverPid now msg).lastServerHeartbeatTime = now := by
    obtain ⟨websockets, trace, worker, hresult⟩ := handleResult_keeps c c.serverPid now msg
    rw [hresult]
  rw [iterate, if_neg hconnected]
  dsimp only
  split
  · exact hhandle
  · rw [sendHeartbeat_time, hhandle]

/-! ### The reading index -/

/-- The caller connects the client. -/
def Caller.isConnecting : Caller → Bool
  | spawning _ | connecting _ => true
  | _ => false

/-- The caller registers the client. -/
def Caller.isRegistering : Caller → Bool
  | waiting _ _ (.register _) => true
  | _ => false

/-- A connected client has a reading index, and so has one that registers; one that connects
is not connected. -/
structure Indexed (c : WebsocketProxyClient) : Prop where
  connected : c.serverPid ≠ 0 → c.serverQueueIndex ≠ 0
  connecting : c.caller.isConnecting → c.serverPid = 0
  registering : c.caller.isRegistering → c.serverQueueIndex ≠ 0

theorem handleAnswer_indexed {c : WebsocketProxyClient} (hc : c.Indexed) {msg : ℕ}
    {start : UInt64} {req : Request} (hcaller : c.caller = .waiting msg start req)
    (answer : Message) (now : UInt64) :
  (c.handleAnswer req answer now).Indexed
  := by
  have hnot : ∀ {P : Prop}, false = true → P := fun h => Bool.noConfusion h
  cases req with
  | register o =>
      have hindex : c.serverQueueIndex ≠ 0 := by
        apply hc.registering
        rw [hcaller]
        rfl
      simp only [handleAnswer]
      split
      · exact ⟨hc.connected, hnot, hnot⟩
      · exact ⟨fun _ => hindex, hnot, hnot⟩
  | openWs =>
      simp only [handleAnswer]
      split
      · exact ⟨hc.connected, hnot, hnot⟩
      · exact ⟨hc.connected, hnot, hnot⟩
  | closeWs | subscribe => exact ⟨hc.connected, hnot, hnot⟩

theorem caller_indexed {ev : Event} {c c' : WebsocketProxyClient} (hev : ev.ofWorker = false)
    (hc : c.Indexed) (h : system.step c ev = some c') :
  c'.Indexed
  := by
  obtain ⟨published, hstep⟩ := system_step h
  cases hstep with
  | notConnected | load | takeTime | readSome | readNone | sendHeartbeat | compare | disconnect =>
      cases hev
  | rehash | unsubscribe | send | setLogLevel => exact ⟨hc.connected, hc.connecting, hc.registering⟩
  | connect _ hpid => exact ⟨hc.connected, fun _ => hpid, nofun⟩
  | spawned hcaller =>
      have hpid : c.serverPid = 0 := by
        apply hc.connecting
        rw [hcaller]
        rfl
      exact ⟨fun h => absurd hpid h, fun _ => hpid, nofun⟩
  | ready hcaller => exact ⟨fun _ => Nat.one_ne_zero, hc.connecting, fun _ => Nat.one_ne_zero⟩
  | register _ hindex => exact ⟨hc.connected, nofun, fun _ => hindex⟩
  | forget => exact ⟨fun h => absurd rfl h, nofun, nofun⟩
  | @wait msg start req now sent =>
      obtain ⟨time, htime⟩ := sendHeartbeat_keeps c now sent
      rw [htime]
      exact ⟨hc.connected, hc.connecting, hc.registering⟩
  | answer hcaller => exact handleAnswer_indexed hc hcaller _ _
  | _ => exact ⟨hc.connected, nofun, nofun⟩

theorem iterate_indexed {c : WebsocketProxyClient} (hc : c.Indexed) (now sent : UInt64)
    (result : Option Message) :
  (c.iterate now sent result).Indexed
  := by
  have hbeat : ∀ {c : WebsocketProxyClient}, c.Indexed → (c.sendHeartbeat now sent).1.Indexed := by
    intro c hc
    obtain ⟨time, htime⟩ := sendHeartbeat_keeps c now sent
    rw [htime]
    exact ⟨hc.connected, hc.connecting, hc.registering⟩
  have hread : ∀ msg, (c.handleResult c.serverPid now msg).Indexed := by
    intro msg
    obtain ⟨websockets, trace, worker, hresult⟩ := handleResult_keeps c c.serverPid now msg
    rw [hresult]
    exact ⟨fun _ => Nat.succ_ne_zero _, hc.connecting, fun _ => Nat.succ_ne_zero _⟩
  have hloading : ∀ {c : WebsocketProxyClient}, c.Indexed →
      Indexed { c with worker := .loading } :=
    fun hc => ⟨hc.connected, hc.connecting, hc.registering⟩
  unfold iterate
  split
  · exact hc
  · split
    · split
      · apply hread _
      · apply hloading (hbeat (hread _))
    · dsimp only
      split
      · apply hloading
        rw [giveUp_keeps]
        exact ⟨fun h => absurd rfl h, fun _ => rfl, (hbeat hc).registering⟩
      · apply hloading (hbeat hc)

/-- A round ends where it began. -/
theorem iterate_worker {c : WebsocketProxyClient} (hworker : c.worker = .loading)
    (now sent : UInt64) (result : Option Message) :
  (c.iterate now sent result).worker = .loading
  := by
  unfold iterate
  split
  · exact hworker
  · split
    · split
      case isTrue hne =>
        rw [handleResult, if_pos hne]
      case isFalse => rfl
    · rfl

/-! ### Both clients -/

/-- The clients have all in common that decides on callbacks, but for the time of the server,
which for the second is that of the own server. -/
structure Alike (s : Compared) : Prop where
  outline : s.actual.outline = s.erased.outline
  own : s.erased.lastServerHeartbeatTime = s.own
  worker : s.actual.worker = .loading
  indexed : s.actual.Indexed

variable {s : Compared}

theorem Alike.callbacks (h : Alike s) :
  s.actual.callbacks = s.erased.callbacks
  := congrArg WebsocketProxyClient.trace h.outline

theorem Alike.serverPid (h : Alike s) :
  s.erased.serverPid = s.actual.serverPid
  := (congrArg WebsocketProxyClient.serverPid h.outline).symm

theorem Alike.worker_erased (h : Alike s) :
  s.erased.worker = .loading
  := (congrArg WebsocketProxyClient.worker h.outline).symm.trans h.worker

theorem Alike.isTimedOut_erased (h : Alike s) (now : UInt64) :
  s.erased.isTimedOut now = isSilent s.own now
  := by
  rw [isTimedOut, h.own]

theorem ownTurn_round (c : WebsocketProxyClient) (now sent : UInt64) (result : Option Message) :
  ∃ own, c.ownTurn (.round now sent result) = .round now sent own
  := by
  cases result with
  | none => exact ⟨none, rfl⟩
  | some msg =>
      rcases eq_or_ne msg.pid c.serverPid with hpid | hpid
      · exact ⟨some msg, if_pos hpid⟩
      · exact ⟨none, if_neg hpid⟩

/-- Both clients make a round, in which they read `result` and `own`. -/
theorem comparison_round {now sent : UInt64} {result own : Option Message}
    (hown : s.actual.ownTurn (.round now sent result) = .round now sent own) :
  comparison.step s (.round now sent result) = some
    { actual := s.actual.iterate now sent result
      erased := s.erased.iterate now sent own
      own := s.actual.ownTime s.own (.round now sent result) }
  := by
  simp only [comparison, hown]
  rfl

/-- Both clients make a round, and have as much in common afterwards. -/
theorem Alike.round (h : Alike s) {now sent : UInt64} {result : Option Message}
    (hheeds : HeedsOwn s (.round now sent result)) :
  ∃ s', comparison.step s (.round now sent result) = some s' ∧
    s'.actual = s.actual.iterate now sent result ∧ Alike s'
  := by
  have halike : ∀ {own time}, s.actual.ownTurn (.round now sent result) = .round now sent own →
      s.actual.ownTime s.own (.round now sent result) = time →
      (s.actual.iterate now sent result).outline = (s.erased.iterate now sent own).outline →
      (s.erased.iterate now sent own).lastServerHeartbeatTime = time →
      ∃ s', comparison.step s (.round now sent result) = some s' ∧
        s'.actual = s.actual.iterate now sent result ∧ Alike s' := by
    intro own time hown htime houtline hlast
    refine ⟨_, comparison_round hown, rfl, ?_⟩
    constructor
    · exact houtline
    · apply hlast.trans htime.symm
    · apply iterate_worker h.worker now sent result
    · apply iterate_indexed h.indexed now sent result
  rcases eq_or_ne s.actual.serverPid 0 with hzero | hconnected
  · have hactual : ∀ result, s.actual.iterate now sent result = s.actual :=
      fun result => if_pos hzero
    have herased : ∀ result, s.erased.iterate now sent result = s.erased :=
      fun result => if_pos (h.serverPid.trans hzero)
    have htime : s.actual.ownTime s.own (.round now sent result) = s.own := by
      cases result with
      | none => rfl
      | some msg => exact if_neg (fun h => h.1 hzero)
    obtain ⟨own, hown⟩ := ownTurn_round s.actual now sent result
    apply halike hown htime
    · rw [hactual, herased, h.outline]
    · rw [herased, h.own]
  · have hconnected' : s.erased.serverPid ≠ 0 := by
      rw [h.serverPid]
      exact hconnected
    cases result with
    | none =>
        apply halike rfl rfl
        · rw [iterate_none_outline hconnected h.worker, iterate_none_outline hconnected' h.worker_erased,
            h.outline, hheeds hconnected, h.isTimedOut_erased]
        · rw [iterate_none_time, h.own]
          rfl
    | some msg =>
        rcases eq_or_ne msg.pid s.actual.serverPid with hpid | hpid
        · refine @halike (some msg) _ (if_pos hpid) (if_pos ⟨hconnected, hpid⟩) ?_ ?_
          · rw [iterate_own_outline hconnected _ _ hpid,
              iterate_own_outline hconnected' _ _ (hpid.trans h.serverPid.symm), h.outline]
          · apply iterate_some_time hconnected' _ _ _
        · apply halike (if_neg hpid) (if_neg (fun h => hpid h.2))
          · rw [iterate_other_outline hconnected h.worker (h.indexed.connected hconnected) _ _ hpid,
              iterate_none_outline hconnected' h.worker_erased, h.isTimedOut_erased,
              hheeds hconnected hpid, h.outline]
            rfl
          · rw [iterate_none_time, h.own]

/-- Both clients make a step of the caller, and have as much in common afterwards. -/
theorem Alike.caller (h : Alike s) {ev : Event} {c' : WebsocketProxyClient}
    (hturn : s.actual.turn (.caller ev) = some c') :
  ∃ s', comparison.step s (.caller ev) = some s' ∧ s'.actual = c' ∧ Alike s'
  := by
  have hturn' := hturn
  rw [turn] at hturn
  split at hturn
  case isTrue => cases hturn
  case isFalse hworker =>
    have hev : ev.ofWorker = false := Bool.eq_false_iff.mpr hworker
    have hsame : (system.step s.actual ev).map WebsocketProxyClient.outline
        = (system.step s.erased ev).map WebsocketProxyClient.outline := by
      rw [caller_outline hev, caller_outline hev s.erased, h.outline]
    rw [hturn, Option.map_some] at hsame
    obtain ⟨d', hd', houtline⟩ := Option.map_eq_some_iff.mp hsame.symm
    have hturn'' : s.erased.turn (.caller ev) = some d' := by
      rw [turn, if_neg hworker, hd']
    use { actual := c', erased := d', own := s.actual.ownTime s.own (.caller ev) }
    refine ⟨?_, rfl, ?_⟩
    · simp only [comparison, ownTurn, hturn', hturn'']
      rfl
    · constructor
      · apply houtline.symm
      · have hcaller : s.erased.caller = s.actual.caller :=
          (congrArg WebsocketProxyClient.caller h.outline).symm
        have hstored : s.erased.storedTime ev = s.actual.storedTime ev := by
          unfold storedTime
          rw [hcaller]
        change d'.lastServerHeartbeatTime = (s.actual.storedTime ev).getD s.own
        rw [caller_time hev hd', hstored, h.own]
      · exact (caller_worker hev hturn).trans h.worker
      · apply caller_indexed hev h.indexed hturn

theorem reachable_alike (h : comparison.ReachableUnder HeedsOwn s) :
  Alike s
  := by
  apply h.invariant
  · rintro _ ⟨pid, name, rfl⟩
    constructor
    · rfl
    · rfl
    · rfl
    · exact ⟨fun h => absurd rfl h, nofun, nofun⟩
  · intro s t s' _ hs hheeds hstep
    have hactual : s.actual.turn t = some s'.actual := by
      obtain ⟨actual, hactual, herased⟩ := Option.bind_eq_some_iff.mp hstep
      obtain ⟨erased, -, hs'⟩ := Option.bind_eq_some_iff.mp herased
      rw [hactual, ← Option.some.inj hs']
    cases t with
    | round now sent result =>
        obtain ⟨s₁, hs₁, -, halike⟩ := hs.round hheeds
        obtain rfl := Option.some.inj (hs₁.symm.trans hstep)
        exact halike
    | caller ev =>
        obtain ⟨s₁, hs₁, -, halike⟩ := hs.caller hactual
        obtain rfl := Option.some.inj (hs₁.symm.trans hstep)
        exact halike

/-- The callbacks after a round in which nothing is read. -/
theorem iterate_none_callbacks {c : WebsocketProxyClient} (hconnected : c.serverPid ≠ 0)
    (hworker : c.worker = .loading) (now sent : UInt64) :
  (c.iterate now sent none).callbacks = if c.isTimedOut now then
    c.callbacks ++ .callback .onWebsocketProxyServerDisconnected :: closes c.websockets.keys
    else c.callbacks
  := by
  have houtline := congrArg trace (iterate_none_outline hconnected hworker now sent)
  split
  case isTrue htime =>
    rw [if_pos htime, ← giveUp_outline] at houtline
    apply houtline.trans (giveUp_callbacks c)
  case isFalse htime =>
    rw [if_neg htime] at houtline
    exact houtline

/-- Where the messages of other processes decide on whether the server is given up, one client
reports that it is gone, and the other does not. -/
theorem Alike.differs (h : Alike s) {t : Turn} {s' : Compared} (hheeds : ¬ HeedsOwn s t)
    (hstep : comparison.step s t = some s') :
  s'.actual.callbacks ≠ s'.erased.callbacks
  := by
  have hmore : ∀ (l ids : List _), l ++ Observation.callback .onWebsocketProxyServerDisconnected ::
      ids ≠ l := by
    intro l ids heq
    simpa using congrArg List.length heq
  have hserverPid : s.actual.serverPid ≠ 0 → s.erased.serverPid ≠ 0 := by
    rw [h.serverPid]
    exact fun hconnected => hconnected
  cases t with
  | caller => exact absurd trivial hheeds
  | round now sent result =>
      cases result with
      | none =>
          obtain ⟨hconnected, hne⟩ := Classical.not_imp.mp hheeds
          obtain rfl := Option.some.inj ((comparison_round rfl).symm.trans hstep)
          dsimp only
          rw [iterate_none_callbacks hconnected h.worker,
            iterate_none_callbacks (hserverPid hconnected) h.worker_erased, h.isTimedOut_erased,
            h.callbacks]
          cases hactual : s.actual.isTimedOut now with
          | true =>
              have hsilent : isSilent s.own now = false := by
                rw [hactual] at hne
                simpa using hne
              rw [if_pos rfl, hsilent]
              apply hmore _ _
          | false =>
              have hsilent : isSilent s.own now = true := by
                rw [hactual] at hne
                simpa using hne
              rw [hsilent, if_pos rfl]
              exact (hmore _ _).symm
      | some msg =>
          obtain ⟨hconnected, hrest⟩ := Classical.not_imp.mp hheeds
          obtain ⟨hpid, hsilent⟩ := Classical.not_imp.mp hrest
          have hround : comparison.step s (.round now sent (some msg)) = some
              { actual := s.actual.iterate now sent (some msg)
                erased := s.erased.iterate now sent none
                own := s.actual.ownTime s.own (.round now sent (some msg)) } :=
            comparison_round (if_neg hpid)
          obtain rfl := Option.some.inj (hround.symm.trans hstep)
          have hsame : (s.actual.iterate now sent (some msg)).callbacks = s.actual.callbacks :=
            congrArg trace (iterate_other_outline hconnected h.worker
              (h.indexed.connected hconnected) now sent hpid)
          dsimp only
          rw [hsame, iterate_none_callbacks (hserverPid hconnected) h.worker_erased,
            h.isTimedOut_erased, if_pos (Bool.not_eq_false _ ▸ hsilent), h.callbacks]
          exact (hmore _ _).symm

/-- As long as the messages of other processes do not hide that the connected server is silent,
the client calls the callbacks it would call without reading them. Where they do, it does not. -/
theorem server_death_own (h : comparison.ReachableUnder HeedsOwn s) :
  s.actual.callbacks = s.erased.callbacks ∧
  ∀ t c', s.actual.turn t = some c' → ∃ s', comparison.step s t = some s' ∧ s'.actual = c' ∧
    (s'.actual.callbacks = s'.erased.callbacks ↔ HeedsOwn s t)
  := by
  have halike := reachable_alike h
  use halike.callbacks
  intro t c' hturn
  have hheeding : (∃ s', comparison.step s t = some s' ∧ s'.actual = c' ∧ Alike s') →
      HeedsOwn s t → ∃ s', comparison.step s t = some s' ∧ s'.actual = c' ∧
        (s'.actual.callbacks = s'.erased.callbacks ↔ HeedsOwn s t) := by
    rintro ⟨s', hstep, hactual, halike'⟩ hheeds
    exact ⟨s', hstep, hactual, iff_of_true halike'.callbacks hheeds⟩
  cases t with
  | caller ev => exact hheeding (halike.caller hturn) trivial
  | round now sent result =>
      obtain rfl := Option.some.inj hturn
      rcases em (HeedsOwn s (.round now sent result)) with hheeds | hheeds
      · apply hheeding (halike.round hheeds) hheeds
      · obtain ⟨own, hown⟩ := ownTurn_round s.actual now sent result
        have hstep := comparison_round hown
        exact ⟨_, hstep, rfl, iff_of_false (halike.differs hheeds hstep) hheeds⟩

/-- The turns by which a client is connected to the server 7, and told of a connection. -/
def connectAndOpen : List Turn :=
  (Event.connect 7 0 1 1000).map Turn.caller ++
  [.round 1000 1000 (some { pid := 7, data := .openWs { id := 70001, clientPid := 1 } })]

/-- The server dies, and a successor writes to the same queue for less than 15 seconds. -/
theorem server_death_own_successor :
  ∃ s, comparison.RunUnder HeedsOwn
      { actual := start 1 [], erased := start 1 [] }
      (connectAndOpen ++ [.round 9000 9000 (some { pid := 8, data := .heartbeat }),
        .round 30000 30000 none]) s ∧
    s.actual.callbacks = s.erased.callbacks ∧
    .callback .onWebsocketProxyServerDisconnected ∈ s.actual.callbacks
  := by
  obtain ⟨s, hrun, hgone⟩ : ∃ s, comparison.RunUnder HeedsOwn
      { actual := start 1 [], erased := start 1 [] }
      (connectAndOpen ++ [.round 9000 9000 (some { pid := 8, data := .heartbeat }),
        .round 30000 30000 none]) s ∧
      .callback .onWebsocketProxyServerDisconnected ∈ s.actual.callbacks :=
    TransitionSystem.exists_runUnder (by decide +kernel)
  obtain ⟨hsame, -⟩ := server_death_own ⟨_, _, ⟨1, [], rfl⟩, hrun⟩
  use s, hrun, hsame

/-- The server dies, and the client is not told as long as a successor writes to the queue. -/
theorem not_server_death_own :
  ¬ ∀ s, comparison.Reachable s → s.actual.callbacks = s.erased.callbacks
  := by
  intro h
  obtain ⟨s, hrun, hne⟩ : ∃ s, comparison.Run
      { actual := start 1 [], erased := start 1 [] }
      (connectAndOpen ++ [.round 20000 20000 (some { pid := 8, data := .heartbeat }),
        .round 20100 20100 none]) s ∧ s.actual.callbacks ≠ s.erased.callbacks :=
    TransitionSystem.exists_runUnder (by decide +kernel)
  exact hne (h s ⟨_, _, ⟨1, [], rfl⟩, hrun⟩)

end WebsocketProxyClient
