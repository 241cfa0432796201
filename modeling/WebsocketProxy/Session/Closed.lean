import WebsocketProxy.Session.Basic

/-!
# After a connection was closed

`closeWebSocket` leaves the id in `websockets_`, and forgets the server. A session is watched
for the ids that one client closed: they get no data and no errors as long as the client does
not handle messages with a closed id in `websockets_` (`closed_no_data`). When it connects
again, it does.
-/

namespace WebsocketProxyClient

/-- The worker has loaded `server_pid_`, and reads the queue before it loads it again. -/
def Worker.Loaded : Worker → Prop
  | timing _ | reading _ _ => True
  | _ => False

instance (worker : Worker) : Decidable worker.Loaded := by
  cases worker <;> unfold Worker.Loaded <;> infer_instance

/-- The answer makes the caller store the process id of a server. -/
def Registers (c : WebsocketProxyClient) (answer : Message) : Prop :=
  match c.caller with
  | .waiting _ _ (.register _) => answer.status ≠ .failed ∧ answer.registerMessage.serverPid ≠ 0
  | _ => False

instance (c : WebsocketProxyClient) (answer : Message) : Decidable (c.Registers answer) :=
  match c with
  | { caller := .waiting _ _ (.register _), .. } => inferInstanceAs (Decidable (_ ∧ _))
  | { caller := .waiting _ _ .openWs, .. } | { caller := .waiting _ _ (.closeWs _), .. }
  | { caller := .waiting _ _ (.subscribe _), .. } | { caller := .idle, .. }
  | { caller := .spawning _, .. } | { caller := .connecting _, .. } | { caller := .connected _, .. }
  | { caller := .unregistering _, .. } | { caller := .forgetting _, .. } =>
      inferInstanceAs (Decidable False)

/-- How many messages the server had published when it handled the `CloseWs` of an id, for the
ids that were closed by a call and not opened since; `answeredAt` is that number for the last
answer the caller took. -/
def closedAfter (answeredAt : ℕ) (closedAt : UInt64 → Option ℕ) (seen : List Observation)
    (id : UInt64) : Option ℕ :=
  if .callback (.onWebsocketOpened id) ∈ seen then none
  else if .returned (.closeWebSocket id true) ∈ seen then some answeredAt
  else closedAt id

/-- Nothing in `websockets_` was closed by a call. -/
def NoneClosed (c : WebsocketProxyClient) (closedAt : UInt64 → Option ℕ) : Prop :=
  ∀ id ∈ c.websockets.keys, closedAt id = none

instance (c : WebsocketProxyClient) (closedAt : UInt64 → Option ℕ) :
    Decidable (c.NoneClosed closedAt) :=
  List.decidableBAll (fun id => closedAt id = none) c.websockets.keys

/-- When `closeWebSocket` returns, its id is not in `websockets_`, or the worker reads nothing
that was published later; and when the client connects again, nothing in `websockets_` was
closed. -/
def Forgets (c : WebsocketProxyClient) (answeredAt : ℕ) (closedAt : UInt64 → Option ℕ) :
    Event → Prop
  | .forget =>
      match c.caller with
      | .forgetting id => id ∈ c.websockets → c.worker.Loaded → c.serverQueueIndex < answeredAt
      | _ => True
  | .spawnWebsocketsProxyServer _ => c.worker.Loaded → c.NoneClosed closedAt
  | .answer answer _ => c.Registers answer → c.NoneClosed closedAt
  | _ => True

instance (c : WebsocketProxyClient) (answeredAt : ℕ) (closedAt : UInt64 → Option ℕ) (ev : Event) :
    Decidable (c.Forgets answeredAt closedAt ev) :=
  match ev with
  | .forget =>
      match hcaller : c.caller with
      | .forgetting id => decidable_of_iff
          (id ∈ c.websockets → c.worker.Loaded → c.serverQueueIndex < answeredAt)
          (by rw [Forgets, hcaller])
      | .idle | .spawning _ | .connecting _ | .connected _ | .waiting .. | .unregistering _ =>
          isTrue (by rw [Forgets, hcaller]; trivial)
  | .spawnWebsocketsProxyServer _ =>
      inferInstanceAs (Decidable (c.worker.Loaded → c.NoneClosed closedAt))
  | .answer answer _ => inferInstanceAs (Decidable (c.Registers answer → c.NoneClosed closedAt))
  | .load | .takeTime _ | .read _ | .sendHeartbeat _ | .compare | .disconnect | .rehash _
  | .openWebSocket _ | .waitForServerReady _ | .register .. | .sendOpenMessage ..
  | .closeWebSocket .. | .unregister _ | .subscribe .. | .unsubscribe .. | .send ..
  | .setLogLevel .. | .wait .. | .timeout _ => inferInstanceAs (Decidable True)

/-- The callback passes data or an error of a connection on. -/
def Observation.Receives (id : UInt64) : Observation → Prop
  | callback (.onWebsocketData id' _ _ _) | callback (.onWebsocketError id' _ _) => id' = id
  | _ => False

/-! ### What a step can lead to -/

/-- What a step does to how near the worker is to handling a message: none but the ones named
bring it nearer. -/
inductive Nears (c : WebsocketProxyClient) : Event → WebsocketProxyClient → Prop
  | none {ev c'} (hpid : c'.serverPid = 0 ∨ c'.serverPid = c.serverPid)
      (hloaded : c'.worker.Loaded → c.worker.Loaded ∧ c'.serverQueueIndex = c.serverQueueIndex ∧
        ∀ o, c'.caller = .connecting o → c.caller = .connecting o) : Nears c ev c'
  | load {c'} (hpid : c.serverPid ≠ 0) : Nears c .load c'
  | spawned {index c'} (hpid : c'.serverPid = c.serverPid) (hworker : c'.worker = c.worker) :
      Nears c (.spawnWebsocketsProxyServer index) c'
  | ready {o} (hcaller : c.caller = .connecting o) :
      Nears c (.waitForServerReady true) { c with serverQueueIndex := 1 }
  | registers {answer now c'} (hregisters : c.Registers answer) : Nears c (.answer answer now) c'

variable {c c' : WebsocketProxyClient} {ev : Event} {published : List Message}

theorem Step.nears (h : Step c ev c' published) :
  Nears c ev c'
  := by
  have hsame : ∀ {d : WebsocketProxyClient}, d.serverPid = c.serverPid → d.worker = c.worker →
      d.serverQueueIndex = c.serverQueueIndex →
      (∀ o, d.caller = .connecting o → c.caller = .connecting o) → Nears c ev d := by
    intro d hpid hworker hindex hcaller
    apply Nears.none
    · apply Or.inr hpid
    · rw [hworker]
      exact fun hloaded => ⟨hloaded, hindex, hcaller⟩
  have hread : ∀ {d : WebsocketProxyClient}, d.serverPid = 0 ∨ d.serverPid = c.serverPid →
      ¬ d.worker.Loaded → Nears c ev d :=
    fun hpid hworker => .none hpid (fun hloaded => absurd hloaded hworker)
  cases h with
  | load hworker hpid => exact .load hpid
  | spawned => exact .spawned rfl rfl
  | ready hcaller => exact .ready hcaller
  | @answer msg start req answer now hcaller hanswer =>
      rcases em (c.Registers answer) with hregisters | hregisters
      · exact .registers hregisters
      · rw [Registers, hcaller] at hregisters
        cases req with
        | register o =>
            simp only [handleAnswer]
            split
            case isTrue => exact hsame rfl rfl rfl (fun o ho => Caller.noConfusion ho)
            case isFalse hstatus =>
              have hpid : answer.registerMessage.serverPid = 0 := by
                by_contra hpid
                exact hregisters ⟨hstatus, hpid⟩
              apply Nears.none
              · apply Or.inl hpid
              · intro hloaded
                use hloaded, rfl
                exact fun o ho => Caller.noConfusion ho
        | openWs =>
            simp only [handleAnswer]
            split
            · exact hsame rfl rfl rfl (fun o ho => Caller.noConfusion ho)
            · exact hsame rfl rfl rfl (fun o ho => Caller.noConfusion ho)
        | closeWs | subscribe => exact hsame rfl rfl rfl (fun o ho => Caller.noConfusion ho)
  | notConnected | rehash | unsubscribe | send | setLogLevel =>
      exact hsame rfl rfl rfl (fun _ ho => ho)
  | takeTime hworker =>
      apply Nears.none
      · apply Or.inr rfl
      · rw [hworker]
        exact fun _ => ⟨trivial, rfl, fun _ ho => ho⟩
  | @readSome serverPid now msg =>
      obtain ⟨websockets, trace, worker, hresult⟩ := handleResult_keeps c serverPid now msg
      apply hread
      · rw [hresult]
        apply Or.inr rfl
      · unfold handleResult
        split
        · exact fun hloaded => hloaded
        · exact fun hloaded => hloaded
  | readNone => exact hread (Or.inr rfl) (fun hloaded => hloaded)
  | @sendHeartbeat now found sent =>
      obtain ⟨time, htime⟩ := sendHeartbeat_keeps c now sent
      rw [htime]
      exact hread (Or.inr rfl) (fun hloaded => hloaded)
  | compare =>
      apply hread
      · apply Or.inr rfl
      · dsimp only
        split
        · exact fun hloaded => hloaded
        · exact fun hloaded => hloaded
  | disconnect =>
      apply hread
      · rw [giveUp_keeps]
        apply Or.inl rfl
      · exact fun hloaded => hloaded
  | @wait msg start req now sent =>
      obtain ⟨time, htime⟩ := sendHeartbeat_keeps c now sent
      rw [htime]
      exact hsame rfl rfl rfl (fun _ ho => ho)
  | forget =>
      apply Nears.none
      · apply Or.inl rfl
      · intro hloaded
        use hloaded, rfl
        exact fun o ho => Caller.noConfusion ho
  | _ => exact hsame rfl rfl rfl (fun o ho => Caller.noConfusion ho)

/-! ### The closed ids -/

/-- A client gets to know an id only by being told that it was opened. -/
theorem Sees.mem_of_not_opened {seen : List Observation} (h : Sees c ev c' seen) {id : UInt64}
    (hopened : .callback (.onWebsocketOpened id) ∉ seen) (hid : id ∈ c'.websockets) :
  id ∈ c.websockets
  := by
  cases h with
  | nothing hids | returned _ hids | ignored _ _ hids | error _ _ _ hids | data _ _ _ hids =>
      exact (hids id).mp hid
  | opened _ _ _ hids =>
      rcases (hids id).mp hid with rfl | hid
      · exact absurd (by simp) hopened
      · exact hid
  | closed _ _ _ hids => exact ((hids id).mp hid).2
  | disconnected _ _ _ hids => exact absurd hid (hids id)

/-- That an id was closed was so before, or `closeWebSocket` returns. -/
theorem Sees.closed_cases {seen : List Observation} (h : Sees c ev c' seen) {answeredAt : ℕ}
    {closedAt : UInt64 → Option ℕ} {id : UInt64} {k : ℕ}
    (hclosed : closedAfter answeredAt closedAt seen id = some k) (hid : id ∈ c'.websockets) :
  id ∈ c.websockets ∧
    (closedAt id = some k ∨ ev = .forget ∧ c.caller = .forgetting id ∧ k = answeredAt)
  := by
  unfold closedAfter at hclosed
  split at hclosed
  case isTrue => cases hclosed
  case isFalse hopened =>
    use h.mem_of_not_opened hopened hid
    split at hclosed
    case isTrue hreturned =>
      right
      obtain rfl := Option.some.inj hclosed
      cases h with
      | returned hforget =>
          obtain ⟨hev, hcaller⟩ := hforget id (Observation.returned.inj (List.mem_singleton.mp hreturned)).symm
          exact ⟨hev, hcaller, rfl⟩
      | disconnected => simp [closes] at hreturned
      | _ => simp at hreturned
    case isFalse => exact Or.inl hclosed

/-- As long as a closed id is in `websockets_`, the client is not connected, and its worker is
not about to read what was published after `CloseWs` was handled. -/
def Deaf (c : WebsocketProxyClient) (closedAt : UInt64 → Option ℕ) : Prop :=
  ∀ id k, closedAt id = some k → id ∈ c.websockets → c.serverPid = 0 ∧
    (c.worker.Loaded → c.serverQueueIndex < k ∧ ∀ o, c.caller ≠ .connecting o)

theorem NoneClosed.not_mem {closedAt : UInt64 → Option ℕ} (h : c.NoneClosed closedAt)
    {id : UInt64} {k : ℕ} (hclosed : closedAt id = some k) :
  id ∉ c.websockets
  := by
  intro hid
  rw [h id (AList.mem_keys.mpr hid)] at hclosed
  cases hclosed

/-- Steps that forget what is closed keep the client from hearing of it. -/
theorem Deaf.step {closedAt : UInt64 → Option ℕ} {answeredAt : ℕ} {seen : List Observation}
    (h : c.Deaf closedAt) (hforgets : c.Forgets answeredAt closedAt ev)
    (hstep : Step c ev c' published) (hsees : Sees c ev c' seen) :
  c'.Deaf (closedAfter answeredAt closedAt seen)
  := by
  intro id k hclosed hid
  obtain ⟨hid, hclosed⟩ := hsees.closed_cases hclosed hid
  rcases hclosed with hclosed | ⟨rfl, hcaller, rfl⟩
  · obtain ⟨hpid, hloaded⟩ := h id k hclosed hid
    cases hstep.nears with
    | none hpid' hloaded' =>
        constructor
        · rcases hpid' with hpid' | hpid'
          · exact hpid'
          · rw [hpid', hpid]
        · intro hworker
          obtain ⟨hworker, hindex, hcaller⟩ := hloaded' hworker
          obtain ⟨hlt, hconnecting⟩ := hloaded hworker
          rw [hindex]
          use hlt
          exact fun o ho => hconnecting o (hcaller o ho)
    | load hpid' => exact absurd hpid hpid'
    | spawned hpid' hworker =>
        constructor
        · rw [hpid', hpid]
        · rw [hworker]
          exact fun hworker => absurd hid ((hforgets hworker).not_mem hclosed)
    | ready hcaller =>
        use hpid
        exact fun hworker => absurd hcaller ((hloaded hworker).2 _)
    | registers hregisters => exact absurd hid ((hforgets hregisters).not_mem hclosed)
  · rw [Forgets, hcaller] at hforgets
    cases hstep with
    | forget =>
        use rfl
        intro hworker
        use hforgets hid hworker
        exact fun o ho => Caller.noConfusion ho

/-- Data and errors are passed on when a message is read that has an id in `websockets_`. -/
theorem Step.receives {seen : List Observation} (h : Step c ev c' published)
    (hsees : Sees c ev c' seen) {id : UInt64} {ob : Observation} (hob : ob ∈ seen)
    (hreceives : ob.Receives id) :
  id ∈ c.websockets ∧ c.worker.Loaded
  := by
  have hloaded : ∀ {msg}, ev = .read (some msg) → c.worker.Loaded := by
    rintro msg rfl
    cases h with
    | readSome hworker =>
        rw [hworker]
        trivial
  cases hsees with
  | nothing => cases hob
  | returned | ignored =>
      obtain rfl := List.mem_singleton.mp hob
      apply hreceives.elim
  | opened | closed =>
      simp only [List.mem_cons, List.not_mem_nil, or_false] at hob
      rcases hob with rfl | rfl
      · apply hreceives.elim
      · apply hreceives.elim
  | error hev _ hid | data hev _ hid =>
      simp only [List.mem_cons, List.not_mem_nil, or_false] at hob
      rcases hob with rfl | rfl
      · apply hreceives.elim
      · obtain rfl := hreceives
        exact ⟨hid, hloaded hev⟩
  | disconnected =>
      rcases List.mem_cons.mp hob with rfl | hob
      · apply hreceives.elim
      · obtain ⟨_, -, rfl⟩ := List.mem_map.mp hob
        apply hreceives.elim

end WebsocketProxyClient

namespace Session

open WebsocketProxyClient (Observation closedAfter)

/-- A session, watched for what one client closed. -/
structure Watched where
  session : Session
  /-- How many messages the server had published when it stored the last answer the client
  took. -/
  answeredAt : ℕ := 0
  closedAt : UInt64 → Option ℕ := fun _ => none

/-- When the last answer that the client `p` took was stored, after an event. -/
def Watched.answered (w : Watched) (p : UInt64) : Event → ℕ
  | .client q (.answer _ _) =>
      if q = p then (awaited (w.session.clients p)).elim 0 w.session.server.storedAfter
      else w.answeredAt
  | _ => w.answeredAt

/-- Sessions, watched for what the client `p` closed. -/
def watching (p : UInt64) : TransitionSystem Watched Event where
  initial w := ∃ s, system.initial s ∧ w = { session := s }
  step w ev := (w.session.step ev).map fun s =>
    { session := s
      answeredAt := w.answered p ev
      closedAt := closedAfter w.answeredAt w.closedAt (w.session.seen s p) }

/-- The client `p` forgets what it closed. -/
def Forgets (p : UInt64) (w : Watched) : Event → Prop
  | .client q ev => q = p → (w.session.clients p).Forgets w.answeredAt w.closedAt ev
  | .server _ => True

instance (p : UInt64) (w : Watched) (ev : Event) : Decidable (Forgets p w ev) :=
  match ev with
  | .client _ _ => inferInstanceAs (Decidable (_ → _))
  | .server _ => inferInstanceAs (Decidable True)

theorem watching_step {p : UInt64} {w w' : Watched} {ev : Event}
    (h : (watching p).step w ev = some w') :
  w.session.step ev = some w'.session ∧
    w'.closedAt = closedAfter w.answeredAt w.closedAt (w.session.seen w'.session p)
  := by
  obtain ⟨s, hs, rfl⟩ := Option.map_eq_some_iff.mp h
  exact ⟨hs, rfl⟩

/-- A client that forgets what it closed does not hear of it. -/
theorem reachable_deaf {p : UInt64} {w : Watched}
    (h : (watching p).ReachableUnder (Forgets p) w) :
  (w.session.clients p).Deaf w.closedAt
  := by
  apply h.invariant (I := fun w => (w.session.clients p).Deaf w.closedAt)
  · rintro _ ⟨s, -, rfl⟩ id k ⟨⟩
  · intro w ev w' _ hdeaf hforgets hstep
    obtain ⟨hstep, hclosedAt⟩ := watching_step hstep
    rw [hclosedAt]
    rcases step_seen hstep p with ⟨hsame, hnothing⟩ | ⟨ev', published, rfl, hclient, hsees⟩
    · rw [hsame, hnothing]
      exact hdeaf
    · apply hdeaf.step (hforgets rfl) hclient hsees

/-- A client that forgets what it closed gets no data and no errors of it that were published
after `CloseWs` was handled, until it is told again that it was opened. -/
theorem closed_no_data {p : UInt64} {w w' : Watched} {ev : Event}
    (h : (watching p).ReachableUnder (Forgets p) w) (hstep : (watching p).step w ev = some w')
    {id : UInt64} {k : ℕ} (hclosed : w.closedAt id = some k)
    (hlater : k ≤ (w.session.clients p).serverQueueIndex) :
  ∀ ob ∈ w.session.seen w'.session p, ¬ ob.Receives id
  := by
  intro ob hob hreceives
  rcases step_seen (watching_step hstep).1 p with ⟨-, hnothing⟩ | ⟨ev', published, -, hclient, hsees⟩
  · rw [hnothing] at hob
    cases hob
  · obtain ⟨hid, hloaded⟩ := hclient.receives hsees hob hreceives
    obtain ⟨-, hloaded'⟩ := reachable_deaf h id k hclosed hid
    exact absurd (hloaded' hloaded).1 (Nat.not_lt.mpr hlater)

/-- A client closes its only connection, is told of that, and opens another. -/
def closeAndOpen : List Event :=
  .server .startHeartbeat :: Event.openWebSocketAsync 1 [104] 0 1 1000 ++ Event.opened 0 ++
  Event.round 1 1000 (some (Event.wsOpen 1 70001)) ++
  Event.closeWebSocket 1 70001 2 1000 (.server (.complete 0 (.close none)) ::
    Event.round 1 1000 (some { pid := 7, data := .closeWs { id := 70001 } })) ++
  Event.openWebSocketAsync 1 [105] 4 3 1000 ++ Event.opened 1 ++
  [.client 1 .load, .client 1 (.takeTime 1000)]

theorem closed_no_data_closeAndOpen :
  ∃ w w', (watching 1).RunUnder (Forgets 1)
      { session := start 7 (fun _ => 100000) (fun _ => []) } closeAndOpen w ∧
    (watching 1).step w (.client 1 (.read (some (Event.wsOpen 1 70002)))) = some w' ∧
    .callback (.onWebsocketOpened 70002) ∈ w.session.seen w'.session 1 ∧
    ∀ ob ∈ w.session.seen w'.session 1, ¬ ob.Receives 70001
  := by
  obtain ⟨w, hrun, hclosed, hlater, w', hstep, hopened⟩ : ∃ w, (watching 1).RunUnder (Forgets 1)
      { session := start 7 (fun _ => 100000) (fun _ => []) } closeAndOpen w ∧
      w.closedAt 70001 = some 2 ∧ 2 ≤ (w.session.clients 1).serverQueueIndex ∧
      ∃ w' ∈ (watching 1).step w (.client 1 (.read (some (Event.wsOpen 1 70002)))),
        .callback (.onWebsocketOpened 70002) ∈ w.session.seen w'.session 1 :=
    TransitionSystem.exists_runUnder (by decide +kernel)
  use w, w', hrun, hstep, hopened
  exact closed_no_data ⟨_, _, ⟨_, ⟨7, _, _, rfl⟩, rfl⟩, hrun⟩ hstep hclosed hlater

/-- Two clients share a connection; one closes it, opens another, and reads again. -/
def closeShared : List Event :=
  .server .startHeartbeat :: Event.openWebSocketAsync 1 [104] 0 1 1000 ++ Event.opened 0 ++
  Event.openWebSocketAsync 2 [104] 2 2 1000 ++
  Event.round 1 1000 (some (Event.wsOpen 1 70001)) ++ Event.closeWebSocket 1 70001 4 1000 [] ++
  Event.openWebSocketAsync 1 [105] 6 3 1000 ++ [Event.received 0 [5]] ++
  [.client 1 .load, .client 1 (.takeTime 1000)]

/-- The client that closed the connection gets data of it. -/
theorem not_closed_no_data :
  ¬ ∀ (p : UInt64) (w w' : Watched) (ev : Event), (watching p).Reachable w →
    (watching p).step w ev = some w' → ∀ (id : UInt64) (k : ℕ), w.closedAt id = some k →
    k ≤ (w.session.clients p).serverQueueIndex →
    ∀ ob ∈ w.session.seen w'.session p, ¬ ob.Receives id
  := by
  intro hall
  obtain ⟨w, hrun, hclosed, hlater, w', hstep, hdata⟩ : ∃ w, (watching 1).Run
      { session := start 7 (fun _ => 100000) (fun _ => []) } closeShared w ∧
      w.closedAt 70001 = some 3 ∧ 3 ≤ (w.session.clients 1).serverQueueIndex ∧
      ∃ w' ∈ (watching 1).step w
          (.client 1 (.read (some { pid := 7, data := .wsData ⟨70001, 1, 0, [5]⟩ }))),
        .callback (.onWebsocketData 70001 [5] 1 0) ∈ w.session.seen w'.session 1 :=
    TransitionSystem.exists_runUnder (by decide +kernel)
  exact hall 1 w w' _ ⟨_, _, ⟨_, ⟨7, _, _, rfl⟩, rfl⟩, hrun⟩ hstep 70001 3 hclosed hlater _ hdata rfl

end Session
