import WebsocketProxy.Session.Answered

/-!
# What the worker of a client reads

The worker of a client runs beside its caller, the server and the other clients. As long as the
client neither gives the server up nor attaches to the queue anew, all that its worker does is to
handle the messages of the server queue from its reading index on, each once and in their order,
as `hear` does in one go (`worker_hears`).
-/

namespace WebsocketProxyClient

variable {c c' d : WebsocketProxyClient} {ev : Event} {published : List Message}

/-- The message that is read. -/
def Observation.message : Observation → Option Message
  | read _ msg => some msg
  | callback _ | returned _ => none

/-- The callback that is called. -/
def Observation.call : Observation → Option WebsocketProxyCallback
  | callback cb => some cb
  | read .. | returned _ => none

/-- The messages that were read. -/
def heard (c : WebsocketProxyClient) : List Message := c.trace.filterMap Observation.message

/-- The callbacks that were called. -/
def called (c : WebsocketProxyClient) : List WebsocketProxyCallback :=
  c.trace.filterMap Observation.call

/-- What is called when a message is handled. -/
def calls (c : WebsocketProxyClient) (msg : Message) : List WebsocketProxyCallback :=
  match msg.data with
  | .openWs m => if m.clientPid = c.pid then [.onWebsocketOpened m.id] else []
  | .closeWs m => if m.id ∈ c.websockets then [.onWebsocketClosed m.id] else []
  | .wsError m => if m.id ∈ c.websockets then [.onWebsocketError m.id m.err m.len] else []
  | .wsData m =>
      if m.id ∈ c.websockets then [.onWebsocketData m.id m.data m.len m.remaining] else []
  | _ => []

theorem handleMessage_trace (c : WebsocketProxyClient) (msg : Message) :
  (c.handleMessage msg).trace = c.trace ++ (c.calls msg).map .callback
  := by
  cases hdata : msg.data with
  | openWs m =>
      simp only [handleMessage, calls, hdata, handleWsOpen]
      split
      · rfl
      · exact (List.append_nil _).symm
  | closeWs m =>
      simp only [handleMessage, calls, hdata, handleWsClose]
      split
      · rfl
      · exact (List.append_nil _).symm
  | wsError m =>
      simp only [handleMessage, calls, hdata, handleWsError]
      split
      · rfl
      · exact (List.append_nil _).symm
  | wsData m =>
      simp only [handleMessage, calls, hdata, handleWsData]
      split
      · rfl
      · exact (List.append_nil _).symm
  | _ =>
      simp only [handleMessage, calls, hdata]
      exact (List.append_nil _).symm

theorem handleMessage_called (c : WebsocketProxyClient) (msg : Message) :
  (c.handleMessage msg).called = c.called ++ c.calls msg
  := by
  rw [called, handleMessage_trace, List.filterMap_append, List.filterMap_map]
  congr 1
  apply List.filterMap_some

/-- Clients with the same ids do the same with messages. -/
structure HearsAlike (c d : WebsocketProxyClient) : Prop where
  pid : c.pid = d.pid
  ids : ∀ id, id ∈ c.websockets ↔ id ∈ d.websockets
  called : c.called = d.called

theorem HearsAlike.trans {e : WebsocketProxyClient} (h : HearsAlike c d) (h' : HearsAlike d e) :
  HearsAlike c e
  := by
  constructor
  · exact h.pid.trans h'.pid
  · exact fun id => (h.ids id).trans (h'.ids id)
  · exact h.called.trans h'.called

theorem HearsAlike.handleMessage (h : HearsAlike c d) (msg : Message) :
  HearsAlike (c.handleMessage msg) (d.handleMessage msg)
  := by
  obtain ⟨websockets, trace, hc⟩ := handleMessage_keeps c msg
  obtain ⟨websockets', trace', hd⟩ := handleMessage_keeps d msg
  constructor
  · rw [hc, hd]
    exact h.pid
  · intro id
    rw [mem_handleMessage, mem_handleMessage, h.pid]
    cases msg.data with
    | openWs m => apply or_congr_right (h.ids id)
    | closeWs m => apply and_congr_right' (h.ids id)
    | _ => apply h.ids id
  · have hcalls : c.calls msg = d.calls msg := by
      simp only [calls, h.pid, h.ids]
    rw [handleMessage_called, handleMessage_called, h.called, hcalls]

/-- A client that reads a message of its server handles it. -/
theorem handleResult_alike (c : WebsocketProxyClient) (now : UInt64) (msg : Message) :
  HearsAlike (c.handleResult msg.pid now msg) (c.handleMessage msg) ∧
    (c.handleResult msg.pid now msg).heard = c.heard ++ [msg]
  := by
  have hresult : c.handleResult msg.pid now msg
      = { (c.noteMessage msg.pid now msg).handleMessage msg with worker := .beating now true } := by
    simp only [handleResult, ne_eq, not_true_eq_false, if_false]
  have hnote : HearsAlike (c.noteMessage msg.pid now msg) c := by
    constructor
    · rfl
    · exact fun _ => Iff.rfl
    · rw [called, noteMessage, List.filterMap_append]
      apply List.append_nil
  rw [hresult]
  constructor
  · obtain ⟨hpid, hids, hcalled⟩ := hnote.handleMessage msg
    exact ⟨hpid, hids, hcalled⟩
  · change ((c.noteMessage msg.pid now msg).handleMessage msg).heard = _
    have hsilent : ((calls (c.noteMessage msg.pid now msg) msg).map Observation.callback).filterMap
        Observation.message = [] := by
      rw [List.filterMap_map]
      apply List.filterMap_eq_nil_iff.mpr
      exact fun _ _ => rfl
    rw [heard, handleMessage_trace, List.filterMap_append, hsilent, List.append_nil, noteMessage,
      List.filterMap_append]
    rfl

/-- The client neither gives the server up nor sets its reading index anew. -/
def Event.Stays : Event → Prop
  | .spawnWebsocketsProxyServer (some _) | .waitForServerReady true | .disconnect => False
  | _ => True

instance (ev : Event) : Decidable ev.Stays := by
  unfold Event.Stays
  split <;> infer_instance

/-- A step that reads nothing leaves what was read and called as it is. -/
theorem Step.reads_nothing (h : Step c ev c' published) (hstays : ev.Stays)
    (hread : ∀ msg, ev ≠ .read (some msg)) :
  c'.serverQueueIndex = c.serverQueueIndex ∧ HearsAlike c' c ∧ c'.heard = c.heard
  := by
  constructor
  · cases h with
    | readSome => exact absurd rfl (hread _)
    | spawned | ready | disconnect => exact hstays.elim
    | @sendHeartbeat now found sent =>
        obtain ⟨time, htime⟩ := sendHeartbeat_keeps c now sent
        rw [htime]
    | @wait msg start req now sent =>
        obtain ⟨time, htime⟩ := sendHeartbeat_keeps c now sent
        rw [htime]
    | @answer msg start req answer now =>
        obtain ⟨serverPid, caller, seen, hanswer⟩ := handleAnswer_keeps c req answer now
        rw [hanswer]
    | _ => rfl
  · obtain ⟨seen, htrace, hsees⟩ := h.sees
    have hsame : seen.filterMap Observation.call = [] ∧ seen.filterMap Observation.message = [] ∧
        ∀ id, id ∈ c'.websockets ↔ id ∈ c.websockets := by
      cases hsees with
      | nothing hids => exact ⟨rfl, rfl, hids⟩
      | returned _ hids => exact ⟨rfl, rfl, hids⟩
      | ignored hev | opened hev | closed hev | error hev | data hev => exact absurd hev (hread _)
      | disconnected hev =>
          rw [hev] at hstays
          exact hstays.elim
    obtain ⟨hcall, hmessage, hids⟩ := hsame
    constructor
    · refine ⟨h.pid, hids, ?_⟩
      rw [called, htrace, List.filterMap_append, hcall, List.append_nil]
      rfl
    · rw [heard, htrace, List.filterMap_append, hmessage, List.append_nil]
      rfl

/-- A step that reads a message moves the client on by one. -/
theorem Step.reads {msg : Message} (h : Step c (.read (some msg)) c' published) :
  ∃ serverPid, c.worker.loaded = some serverPid ∧
    c'.serverQueueIndex = c.serverQueueIndex + 1 ∧
    (serverPid = msg.pid → HearsAlike c' (c.handleMessage msg) ∧ c'.heard = c.heard ++ [msg])
  := by
  cases h with
  | @readSome serverPid now msg hworker =>
      use serverPid
      constructor
      · rw [hworker]
        rfl
      · constructor
        · obtain ⟨websockets, trace, worker, hresult⟩ := handleResult_keeps c serverPid now msg
          rw [hresult]
        · rintro rfl
          apply handleResult_alike

theorem hear_concat (c : WebsocketProxyClient) (msgs : List Message) (msg : Message) :
  c.hear (msgs ++ [msg]) = (c.hear msgs).handleMessage msg
  := List.foldl_concat ..

end WebsocketProxyClient

namespace WebsocketProxy

/-- The server publishes messages under its own process id. -/
theorem reachable_published_pid {guard : WebsocketProxy → Event → Prop} {px : WebsocketProxy}
    (h : system.ReachableUnder guard px) :
  ∀ m ∈ px.serverQueue, m.pid = px.pid
  := by
  apply h.invariant (I := fun px => ∀ m ∈ px.serverQueue, m.pid = px.pid)
  · rintro _ ⟨pid, clock, rfl⟩ m ⟨⟩
  · intro px ev px' _ hpids _ hstep m hm
    have hpid := step_pid hstep
    obtain ⟨datas, hpublishes⟩ : ∃ datas, px.Publishes datas px' := by
      rcases em (∃ r c, ev = .complete r c) with ⟨r, c, rfl⟩ | hother
      · obtain ⟨ws, calls, -, hpublishes⟩ := complete_publishes hstep
        exact ⟨_, hpublishes⟩
      · obtain ⟨datas, hpublishes, -⟩ :=
          step_publishes hstep (fun r c hev => hother ⟨r, c, hev⟩)
        exact ⟨datas, hpublishes⟩
    rw [hpublishes.serverQueue, List.mem_append] at hm
    rw [hpid]
    rcases hm with hm | hm
    · apply hpids m hm
    · obtain ⟨data, -, rfl⟩ := List.mem_map.mp hm
      rfl

end WebsocketProxy

namespace Session

open WebsocketProxyClient (HearsAlike Step)

/-- The client `p` stays with the server, and no client reuses the slots it waits at. -/
def Stays (p : UInt64) (s : Session) (ev : Event) : Prop :=
  s.AwaitedKept p ev ∧
    match ev with
    | .client q ev => q = p → ev.Stays
    | .server _ => True

instance (p : UInt64) (s : Session) (ev : Event) : Decidable (s.Stays p ev) :=
  match ev with
  | .server ev => inferInstanceAs (Decidable (s.AwaitedKept p (.server ev) ∧ True))
  | .client q ev =>
      inferInstanceAs (Decidable (s.AwaitedKept p (.client q ev) ∧ (q = p → ev.Stays)))

/-- What the client `p` has read of the server queue. -/
def index (s : Session) (p : UInt64) : ℕ := (s.clients p).serverQueueIndex

/-- What was published from message `i` up to where the client `p` has read. -/
def readFrom (s : Session) (p : UInt64) (i : ℕ) : List Message :=
  (s.server.serverQueue.take (s.index p)).drop i

/-- No client reads beyond the end of the server queue. -/
theorem reachable_index_le {s : Session} (h : system.Reachable s) :
  ∀ p, s.index p ≤ s.server.serverQueue.length
  := by
  apply h.invariant (I := fun s => ∀ p, s.index p ≤ s.server.serverQueue.length)
  · rintro _ ⟨pid, clock, names, rfl⟩ p
    exact Nat.le_refl 0
  · intro s ev s' _ hle _ hstep p
    cases ev with
    | server ev =>
        obtain ⟨-, px, hpx, rfl⟩ := step_server hstep
        obtain ⟨news, hnews⟩ := WebsocketProxy.step_serverQueue hpx
        change s.index p ≤ px.serverQueue.length
        rw [hnews, List.length_append]
        apply Nat.le_add_right_of_le (hle p)
    | client q ev =>
        obtain ⟨hfinds, c, published, hc, rfl⟩ := step_client hstep
        rcases eq_or_ne p q with rfl | hne
        · have hself : (s.updateClient p (c, published)).index p = c.serverQueueIndex :=
            congrArg WebsocketProxyClient.serverQueueIndex (Function.update_self ..)
          have hserver : (s.updateClient p (c, published)).server = s.server := rfl
          have hstep := WebsocketProxyClient.perform_step hc
          rw [hself, hserver]
          rcases em ev.Stays with hstays | hnot
          · rcases em (∃ msg, ev = .read (some msg)) with ⟨msg, rfl⟩ | hread
            · have hmsg : some msg = s.server.serverQueue[s.index p]? := hfinds
              obtain ⟨-, -, hindex, -⟩ := hstep.reads
              rw [hindex]
              exact (List.getElem?_eq_some_iff.mp hmsg.symm).1
            · rw [(hstep.reads_nothing hstays fun msg hev => hread ⟨msg, hev⟩).1]
              apply hle p
          · cases hstep with
            | spawned => exact Nat.le_of_eq hfinds
            | ready => exact List.length_pos_iff.mpr hfinds
            | disconnect =>
                rw [WebsocketProxyClient.giveUp_keeps]
                apply hle p
            | _ => exact absurd trivial hnot
        · have hother : (s.updateClient q (c, published)).clients p = s.clients p :=
            Function.update_of_ne hne ..
          rw [index, hother]
          apply hle p

/-- From `s` to `s'`, the client `p` did what `hear` does with the messages that it read. -/
structure Hears (s : Session) (p : UInt64) (s' : Session) : Prop where
  le : s.index p ≤ s'.index p
  alike : HearsAlike (s'.clients p) ((s.clients p).hear (s'.readFrom p (s.index p)))
  heard : (s'.clients p).heard = (s.clients p).heard ++ s'.readFrom p (s.index p)

variable {s s' t u : Session} {p : UInt64} {fs : List Event}

theorem Hears.refl (s : Session) (p : UInt64) :
  s.Hears p s
  := by
  have hnil : s.readFrom p (s.index p) = [] := by
    apply List.drop_eq_nil_of_le
    apply List.length_take_le
  constructor
  · apply Nat.le_refl
  · rw [hnil]
    exact ⟨rfl, fun _ => Iff.rfl, rfl⟩
  · rw [hnil, List.append_nil]

/-- What the client has read stays, when nothing happens to it. -/
theorem Hears.quiet (h : s.Hears p t) (hindex : u.index p = t.index p)
    (hread : u.readFrom p (s.index p) = t.readFrom p (s.index p))
    (halike : HearsAlike (u.clients p) (t.clients p))
    (hheard : (u.clients p).heard = (t.clients p).heard) :
  s.Hears p u
  := by
  constructor
  · rw [hindex]
    exact h.le
  · rw [hread]
    exact halike.trans h.alike
  · rw [hread, hheard]
    exact h.heard

/-- The client reads the next message. -/
theorem Hears.read (h : s.Hears p t) {msg : Message}
    (hmsg : t.server.serverQueue[t.index p]? = some msg)
    (hqueue : u.server.serverQueue = t.server.serverQueue) (hindex : u.index p = t.index p + 1)
    (halike : HearsAlike (u.clients p) ((t.clients p).handleMessage msg))
    (hheard : (u.clients p).heard = (t.clients p).heard ++ [msg]) :
  s.Hears p u
  := by
  have hread : u.readFrom p (s.index p) = t.readFrom p (s.index p) ++ [msg] := by
    have hlt := (List.getElem?_eq_some_iff.mp hmsg).1
    rw [readFrom, hqueue, hindex, List.take_add_one, hmsg, Option.toList_some,
      List.drop_append_of_le_length]
    · rfl
    · rw [List.length_take]
      have hle := h.le
      omega
  constructor
  · rw [hindex]
    apply h.le.trans (Nat.le_succ _)
  · rw [hread, WebsocketProxyClient.hear_concat]
    exact halike.trans (h.alike.handleMessage msg)
  · rw [hread, hheard, h.heard, List.append_assoc]

/-- As long as a client stays, it reads the server queue from its reading index on, each message
once and in their order; and it does with them what `hear` does. -/
theorem run_hears (hs : system.ReachableUnder (AwaitedKept p) s)
    (hrun : system.RunUnder (Stays p) s fs s') :
  s.Hears p s'
  := by
  induction hrun with
  | nil => apply Hears.refl
  | @snoc fs t ev u hrun hstays hstep ih =>
      have ht : system.ReachableUnder (AwaitedKept p) t := by
        obtain ⟨s₀, es, h₀, hbefore⟩ := hs
        use s₀, es ++ fs, h₀
        apply hbefore.append (hrun.mono _)
        exact fun _ _ h => h.1
      cases ev with
      | server ev =>
          obtain ⟨-, px, hpx, rfl⟩ := step_server hstep
          obtain ⟨news, hnews⟩ := WebsocketProxy.step_serverQueue hpx
          refine ih.quiet ?_ ?_ ?_ ?_
          · rfl
          · change (px.serverQueue.take (t.index p)).drop _ = _
            rw [hnews, List.take_append_of_le_length (reachable_index_le ht.reachable p)]
            rfl
          · exact ⟨rfl, fun _ => Iff.rfl, rfl⟩
          · rfl
      | client q ev =>
          obtain ⟨hfinds, c, published, hc, rfl⟩ := step_client hstep
          rcases eq_or_ne q p with rfl | hne
          · have hself : (t.updateClient q (c, published)).clients q = c :=
              Function.update_self ..
            have hstep := WebsocketProxyClient.perform_step hc
            rcases em (∃ msg, ev = .read (some msg)) with ⟨msg, rfl⟩ | hread
            · have hmsg : t.server.serverQueue[t.index q]? = some msg := hfinds.symm
              obtain ⟨serverPid, hloaded, hindex, hreads⟩ := hstep.reads
              have hpid : serverPid = msg.pid := by
                rw [(reachable_served ht).loaded hloaded]
                symm
                apply WebsocketProxy.reachable_published_pid (reachable_taken ht.reachable).1
                apply List.mem_of_getElem? hmsg
              obtain ⟨halike, hheard⟩ := hreads hpid
              refine ih.read hmsg ?_ ?_ ?_ ?_
              · rfl
              · rw [index, hself, hindex]
                rfl
              · rw [hself]
                exact halike
              · rw [hself, hheard]
            · obtain ⟨hindex, halike, hheard⟩ :=
                hstep.reads_nothing (hstays.2 rfl) fun msg hev => hread ⟨msg, hev⟩
              have hsame : (t.updateClient q (c, published)).index q = t.index q :=
                (congrArg WebsocketProxyClient.serverQueueIndex hself).trans hindex
              apply ih.quiet hsame
              · rw [readFrom, hsame]
                rfl
              · rw [hself]
                exact halike
              · rw [hself, hheard]
          · have hother : (t.updateClient q (c, published)).clients p = t.clients p :=
              Function.update_of_ne hne.symm ..
            have hsame : (t.updateClient q (c, published)).index p = t.index p :=
              congrArg WebsocketProxyClient.serverQueueIndex hother
            apply ih.quiet hsame
            · rw [readFrom, hsame]
              rfl
            · rw [hother]
              exact ⟨rfl, fun _ => Iff.rfl, rfl⟩
            · rw [hother]

/-- The worker of the client goes round twice, while the connection reads a message. -/
def readTwo : List Event :=
  Event.received 0 [1, 2] :: Event.round 1 100000 (some (Event.wsOpen 1 70001)) ++
  Event.round 1 100000 (some
    { pid := 7, data := .wsData { id := 70001, len := 2, remaining := 0, data := [1, 2] } })

end Session
