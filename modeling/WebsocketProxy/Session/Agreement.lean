import WebsocketProxy.Server.Numbering
import WebsocketProxy.Server.Registration
import WebsocketProxy.Session.Basic

/-!
# Agreement on the session

A client takes itself for connected when `server_pid_` is the process id of the server. The
server drops clients without telling them: on `Unregister`, which is sent before `server_pid_`
is reset, and in `checkHeartbeats`. As long as it so drops no client that is connected, or about
to be, every client that takes itself for connected is registered (`session_agreement`).
-/

namespace WebsocketProxyClient

variable {c c' : WebsocketProxyClient} {ev : Event} {published : List Message}

theorem sendHeartbeat_not_unregister (now sent : UInt64) :
  ∀ m ∈ (c.sendHeartbeat now sent).2, m.data ≠ .unregister
  := by
  intro m hm hdata
  unfold sendHeartbeat at hm
  split at hm
  · rw [List.mem_singleton.mp hm] at hdata
    cases hdata
  · cases hm

/-- A client that waits for the answer of `Register` waited before and sends no `Unregister`, or
it sends the `Register`. -/
theorem Step.registering (h : Step c ev c' published) {n : ℕ} {start : UInt64} {o : Opening}
    (hcaller : c'.caller = .waiting n start (.register o)) :
  (c.caller = .waiting n start (.register o) ∧ ∀ m ∈ published, m.data ≠ .unregister) ∨
    (∃ sent, ev = .register n sent start) ∧
      ∃ reg, published = [{ pid := c.pid, data := .register reg }]
  := by
  have hsame : ∀ {d : WebsocketProxyClient}, d.caller = c.caller →
      d.caller = .waiting n start (.register o) →
      c.caller = .waiting n start (.register o) ∧ ∀ m ∈ ([] : List Message), m.data ≠ .unregister := by
    intro d hsame hd
    rw [hsame] at hd
    exact ⟨hd, fun m hm => absurd hm List.not_mem_nil⟩
  cases h with
  | notConnected | load | takeTime | readNone | compare | rehash | ready =>
      apply Or.inl (hsame rfl hcaller)
  | @readSome serverPid now msg =>
      obtain ⟨websockets, trace, worker, hresult⟩ := handleResult_keeps c serverPid now msg
      rw [hresult] at hcaller
      apply Or.inl (hsame rfl hcaller)
  | disconnect =>
      rw [giveUp_keeps] at hcaller
      apply Or.inl (hsame rfl hcaller)
  | @sendHeartbeat now found sent =>
      obtain ⟨time, htime⟩ := sendHeartbeat_keeps c now sent
      rw [htime] at hcaller
      exact Or.inl ⟨hcaller, sendHeartbeat_not_unregister now sent⟩
  | @wait msg start req now sent =>
      obtain ⟨time, htime⟩ := sendHeartbeat_keeps c now sent
      rw [htime] at hcaller
      exact Or.inl ⟨hcaller, sendHeartbeat_not_unregister now sent⟩
  | @register o' msg sent start' =>
      obtain ⟨rfl, rfl, -⟩ := Caller.waiting.inj hcaller
      right
      exact ⟨⟨sent, rfl⟩, _, rfl⟩
  | unsubscribe hidle | send hidle | setLogLevel hidle =>
      rw [hidle] at hcaller
      cases hcaller
  | @answer msg start' req answer now =>
      cases req with
      | register o' =>
          simp only [handleAnswer] at hcaller
          split at hcaller
          · cases hcaller
          · cases hcaller
      | openWs =>
          simp only [handleAnswer] at hcaller
          split at hcaller
          · cases hcaller
          · cases hcaller
      | closeWs | subscribe => cases hcaller
  | openSync | closeWebSocket | subscribe =>
      obtain ⟨-, -, hreq⟩ := Caller.waiting.inj hcaller
      cases hreq
  | _ => cases hcaller

/-- A client takes itself for connected because it did before, or because `Register` is
answered. -/
theorem Step.connected (h : Step c ev c' published) (hpid : c'.serverPid ≠ 0) :
  c'.serverPid = c.serverPid ∨ ∃ n start o answer now,
    c.caller = .waiting n start (.register o) ∧ ev = .answer answer now ∧ answer.status ≠ .pending
  := by
  cases h with
  | @readSome serverPid now msg =>
      obtain ⟨websockets, trace, worker, hresult⟩ := handleResult_keeps c serverPid now msg
      rw [hresult]
      apply Or.inl rfl
  | disconnect =>
      rw [giveUp_keeps] at hpid
      exact absurd rfl hpid
  | forget => exact absurd rfl hpid
  | @sendHeartbeat now found sent =>
      obtain ⟨time, htime⟩ := sendHeartbeat_keeps c now sent
      rw [htime]
      apply Or.inl rfl
  | @wait msg start req now sent =>
      obtain ⟨time, htime⟩ := sendHeartbeat_keeps c now sent
      rw [htime]
      apply Or.inl rfl
  | @answer msg start req answer now hcaller hanswer =>
      cases req with
      | register o =>
          right
          exact ⟨msg, start, o, answer, now, hcaller, rfl, hanswer⟩
      | openWs =>
          left
          simp only [handleAnswer]
          split
          · rfl
          · rfl
      | closeWs | subscribe => exact Or.inl rfl
  | _ => exact Or.inl rfl

end WebsocketProxyClient

namespace Session

/-- The client `p` takes itself for connected to the server. -/
def Connected (s : Session) (p : UInt64) : Prop :=
  (s.clients p).serverPid ≠ 0 ∧ (s.clients p).serverPid = s.server.pid

/-- The client `p` waits for the answer of a `Register` that the server has handled. -/
def Joining (s : Session) (p : UInt64) : Prop :=
  match (s.clients p).caller with
  | .waiting n _ (.register _) => n < s.server.taken
  | _ => False

/-- The server drops no client that takes itself for connected, or is about to. -/
def KeepsClients (s : Session) : Event → Prop
  | .server .startHeartbeat => ∀ p ∈ s.server.expired, ¬ s.Connected p ∧ ¬ s.Joining p
  | .server (.processClientMessage (some m)) => m.data = .unregister → ¬ s.Connected m.pid
  | _ => True

instance (s : Session) (p : UInt64) : Decidable (s.Connected p) :=
  inferInstanceAs (Decidable (_ ∧ _))

instance (s : Session) (p : UInt64) : Decidable (s.Joining p) := by
  unfold Joining
  split <;> infer_instance

instance (s : Session) (ev : Event) : Decidable (s.KeepsClients ev) :=
  match ev with
  | .server .startHeartbeat =>
      haveI : DecidablePred fun p => ¬ s.Connected p ∧ ¬ s.Joining p := fun _ => inferInstance
      Finset.decidableDforallFinset
  | .server (.processClientMessage (some m)) =>
      inferInstanceAs (Decidable (m.data = .unregister → ¬ s.Connected m.pid))
  | .server (.processClientMessage none) | .server (.complete ..) | .server .signal
  | .server .shutdownClosure | .server .stopClosure | .server .timerHandler
  | .server (.slotReused ..) | .server (.rehash ..) | .client .. => inferInstanceAs (Decidable True)

/-- The client `p` waits for the answer of its message `n`, a `Register`. It has sent no
`Unregister` since, and is registered when the message was handled. -/
structure Joins (s : Session) (p : UInt64) (n : ℕ) : Prop where
  register : ∃ reg, s.clientQueue[n]? = some { pid := p, data := .register reg }
  stays : ∀ k m, n ≤ k → s.clientQueue[k]? = some m → ¬ m.Unregisters p
  registered : n < s.server.taken → p ∈ s.server.clients

/-- What the client `p` and the server take for their session agrees. -/
structure Agrees (s : Session) (p : UInt64) : Prop where
  connected : s.Connected p → p ∈ s.server.clients
  joins : ∀ {n start o}, (s.clients p).caller = .waiting n start (.register o) → s.Joins p n

theorem Joins.lt_length {s : Session} {p : UInt64} {n : ℕ} (h : s.Joins p n) :
  n < s.clientQueue.length
  := by
  obtain ⟨reg, hn⟩ := h.register
  exact (List.getElem?_eq_some_iff.mp hn).1

/-- A client publishes messages, none of which is an `Unregister` of the client `p`. -/
theorem Joins.updateClient {s : Session} {p q : UInt64} {n : ℕ}
    {result : WebsocketProxyClient × List Message} (h : s.Joins p n)
    (hpublished : ∀ m ∈ result.2, ¬ m.Unregisters p) :
  (s.updateClient q result).Joins p n
  := by
  constructor
  · obtain ⟨reg, hn⟩ := h.register
    use reg
    exact (List.getElem?_append_left h.lt_length).trans hn
  · intro k m hk hm
    have hm : (s.clientQueue ++ result.2)[k]? = some m := hm
    rcases lt_or_ge k s.clientQueue.length with hlt | hge
    · rw [List.getElem?_append_left hlt] at hm
      apply h.stays k m hk hm
    · rw [List.getElem?_append_right hge] at hm
      apply hpublished m (List.mem_of_getElem? hm)
  · apply h.registered

/-- A handler of the server that drops no connected client keeps the agreement. -/
theorem Agrees.server {s s' : Session} {p : UInt64} {ev : WebsocketProxy.Event} (h : s.Agrees p)
    (hwf : s.server.WellFormed) (hkeeps : s.KeepsClients (.server ev))
    (hstep : s.step (.server ev) = some s') :
  s'.Agrees p
  := by
  obtain ⟨hfinds, px, hpx, rfl⟩ := step_server hstep
  have hstays : p ∈ s.server.clients → (s.Connected p ∨ s.Joining p) → p ∈ px.clients := by
    intro hp hexpects
    by_contra hdropped
    rcases WebsocketProxy.mem_departing (WebsocketProxy.step_departing hwf hpx hp hdropped) with
      ⟨rfl, hexpired⟩ | ⟨m, rfl, hm⟩
    · obtain ⟨hconnected, hjoining⟩ := hkeeps p hexpired
      apply hexpects.elim hconnected hjoining
    · obtain ⟨rfl, hdata⟩ := hm
      rcases hexpects with hconnected | hjoining
      · apply hkeeps hdata hconnected
      · rw [Joining] at hjoining
        split at hjoining
        case h_1 n start o hcaller =>
          exact (h.joins hcaller).stays _ m (Nat.le_of_lt hjoining) hfinds.symm ⟨rfl, hdata⟩
        case h_2 => exact hjoining
  constructor
  · rintro ⟨hpid, hconnected⟩
    have hconnected : s.Connected p := ⟨hpid, hconnected.trans (WebsocketProxy.step_pid hpx)⟩
    apply hstays (h.connected hconnected) (Or.inl hconnected)
  · intro n start o hcaller
    have hcaller : (s.clients p).caller = .waiting n start (.register o) := hcaller
    have hjoins := h.joins hcaller
    use hjoins.register, hjoins.stays
    intro hn
    have hn : n < px.taken := hn
    rcases Nat.lt_or_ge n s.server.taken with hlt | hge
    · apply hstays (hjoins.registered hlt)
      right
      rw [Joining, hcaller]
      exact hlt
    · -- the message that is taken is the `Register`
      rw [WebsocketProxy.step_taken hpx] at hn
      cases ev with
      | processClientMessage msg =>
          cases msg with
          | none => exact absurd hn (Nat.not_lt.mpr hge)
          | some m =>
              obtain rfl : n = s.server.taken := Nat.le_antisymm (Nat.le_of_lt_succ hn) hge
              obtain ⟨reg, hregister⟩ := hjoins.register
              obtain rfl := Option.some.inj (hfinds.trans hregister)
              exact WebsocketProxy.step_register hpx ⟨rfl, reg, rfl⟩
      | _ => exact absurd hn (Nat.not_lt.mpr hge)

/-- The answer of a message is found when the server has handled the message. -/
theorem Joins.taken {s : Session} {p : UInt64} {n : ℕ} (h : s.Joins p n)
    (hanswer : (s.slot n).status ≠ .pending) :
  n < s.server.taken
  := by
  by_contra hlt
  obtain ⟨reg, hn⟩ := h.register
  rw [slot, if_neg hlt, List.getD_eq_getElem?_getD, hn] at hanswer
  apply hanswer rfl

/-- A step of the client keeps the agreement. -/
theorem Agrees.self {s s' : Session} {p : UInt64} {ev : WebsocketProxyClient.Event}
    (h : s.Agrees p) (hpid : (s.clients p).pid = p) (htaken : s.server.taken ≤ s.clientQueue.length)
    (hstep : s.step (.client p ev) = some s') :
  s'.Agrees p
  := by
  obtain ⟨hfinds, c, published, hc, rfl⟩ := step_client hstep
  have hstep := WebsocketProxyClient.perform_step hc
  have hself : (s.updateClient p (c, published)).clients p = c := Function.update_self ..
  constructor
  · rintro ⟨hne, hconnected⟩
    rw [hself] at hne hconnected
    rcases hstep.connected hne with hsame | ⟨n, start, o, answer, now, hcaller, rfl, hanswer⟩
    · rw [hsame] at hne hconnected
      exact h.connected ⟨hne, hconnected⟩
    · have hfinds : (awaited (s.clients p)).map s.slot = some answer := hfinds
      rw [awaited, hcaller] at hfinds
      obtain rfl := Option.some.inj hfinds
      have hjoins := h.joins hcaller
      apply hjoins.registered (hjoins.taken hanswer)
  · intro n start o hcaller
    rw [hself] at hcaller
    rcases hstep.registering hcaller with ⟨hbefore, hpublished⟩ | ⟨⟨sent, rfl⟩, reg, rfl⟩
    · apply (h.joins hbefore).updateClient
      exact fun m hm hunregisters => hpublished m hm hunregisters.2
    · obtain rfl : n = s.clientQueue.length := hfinds
      have hlast : (s.clientQueue ++ [{ pid := (s.clients p).pid, data := .register reg }])[
          s.clientQueue.length]? = some { pid := p, data := .register reg } := by
        rw [List.getElem?_concat_length, hpid]
      constructor
      · use reg
        exact hlast
      · intro k m hk hm
        obtain rfl : k = s.clientQueue.length := by
          have hlt := (List.getElem?_eq_some_iff.mp hm).1
          change k < (s.clientQueue ++ [_]).length at hlt
          rw [List.length_append, List.length_singleton] at hlt
          omega
        obtain rfl := Option.some.inj (hlast.symm.trans hm)
        exact fun hunregisters => Message.Data.noConfusion hunregisters.2
      · exact fun hlt => absurd hlt (Nat.not_lt.mpr htaken)

/-- Every client of a session agrees with the server, if no connected client is dropped. -/
theorem reachable_agrees {s : Session} (h : system.ReachableUnder KeepsClients s) :
  ∀ p, s.Agrees p
  := by
  apply h.invariant
  · rintro _ ⟨pid, clock, names, rfl⟩ p
    constructor
    · exact fun hconnected => absurd rfl hconnected.1
    · rintro n start o ⟨⟩
  · intro s ev s' hreachable hs hkeeps hstep p
    cases ev with
    | server ev =>
        exact (hs p).server (WebsocketProxy.reachable_wellFormed (reachable_taken hreachable.reachable).1)
          hkeeps hstep
    | client q ev =>
        rcases eq_or_ne p q with rfl | hne
        · exact (hs p).self (reachable_client hreachable.reachable p).2
            (reachable_taken hreachable.reachable).2 hstep
        · obtain ⟨-, c, published, hc, rfl⟩ := step_client hstep
          have hsame : (s.updateClient q (c, published)).clients p = s.clients p :=
            Function.update_of_ne hne ..
          constructor
          · rw [Connected, hsame]
            exact (hs p).connected
          · intro n start o hcaller
            rw [hsame] at hcaller
            apply ((hs p).joins hcaller).updateClient
            rintro m hm ⟨rfl, -⟩
            apply hne
            rw [(WebsocketProxyClient.perform_step hc).published_pid m hm,
              (reachable_client hreachable.reachable q).2]

/-- In every run in which the server drops no client that is connected or about to be, every
client that takes itself for connected is registered at the server. -/
theorem session_agreement {s : Session} (h : system.ReachableUnder KeepsClients s) {p : UInt64}
    (hconnected : s.Connected p) :
  p ∈ s.server.clients
  := (reachable_agrees h p).connected hconnected

/-- A client connects to open a connection. -/
def connectOne : List Event :=
  [.server .startHeartbeat, .client 1 (.openWebSocket ⟨[104], [], false⟩),
    .client 1 (.spawnWebsocketsProxyServer (some 1)), .client 1 (.register 0 100000 100000),
    Event.take { pid := 1, data := .register { name := [] } },
    .client 1 (.answer
      { pid := 1, data := .register { name := [], serverPid := 7 }, status := .success } 100000)]

theorem session_agreement_connectOne :
  ∃ s, system.RunUnder KeepsClients (start 7 (fun _ => 100000) (fun _ => [])) connectOne s ∧
    1 ∈ s.server.clients
  := by
  obtain ⟨s, hrun, hconnected⟩ : ∃ s, system.RunUnder KeepsClients
      (start 7 (fun _ => 100000) (fun _ => [])) connectOne s ∧ s.Connected 1 :=
    TransitionSystem.exists_runUnder (by decide +kernel)
  use s, hrun
  exact session_agreement ⟨_, _, ⟨7, _, _, rfl⟩, hrun⟩ hconnected

/-- No message is unread: the server has taken all messages of the client queue, and every client
that has a server queue has read it to its end. -/
def AllRead (s : Session) : Prop :=
  s.server.taken = s.clientQueue.length ∧
    ∀ p, (s.clients p).queues → (s.clients p).serverQueueIndex = s.server.serverQueue.length

/-- Nothing runs for 40 seconds after the client connected. Then the server checks its clients,
and the client reads the heartbeat of the server, and sends one. -/
def pauseAfterConnect : List Event :=
  connectOne ++ [.server .startHeartbeat] ++
  Event.round 1 140000 (some { pid := 7, data := .heartbeat }) ++
  [Event.take { pid := 1, data := .heartbeat }]

/-- The readings of the clock of the server in this run. -/
def clockOfPause (j : ℕ) : UInt64 := if j < 2 then 100000 else 140000

/-- The client takes itself for connected, and is not registered; its open is answered with
`FAILED`. -/
theorem not_session_agreement :
  ∃ s, system.Run (start 7 clockOfPause (fun _ => [])) pauseAfterConnect s ∧ s.AllRead ∧
    s.Connected 1 ∧ 1 ∉ s.server.clients ∧
    ∃ s', system.Run s [.client 1 (.sendOpenMessage 2 140000 140000),
        Event.take { pid := 1, data := .openWs { url := [104] } }] s' ∧
      s'.server.stores 2 = [.failed]
  := by
  obtain ⟨s, hrun, htaken, hindex, hconnected, hdropped, s', hexec, hfailed⟩ : ∃ s, system.Run
      (start 7 clockOfPause (fun _ => [])) pauseAfterConnect s ∧
      s.server.taken = s.clientQueue.length ∧
      (s.clients 1).serverQueueIndex = s.server.serverQueue.length ∧
      s.Connected 1 ∧ 1 ∉ s.server.clients ∧
      ∃ s' ∈ system.exec s [.client 1 (.sendOpenMessage 2 140000 140000),
          Event.take { pid := 1, data := .openWs { url := [104] } }],
        s'.server.stores 2 = [.failed] :=
    TransitionSystem.exists_runUnder (by decide +kernel)
  use s, hrun
  refine ⟨⟨htaken, ?_⟩, hconnected, hdropped, s', TransitionSystem.runUnder_of_execUnder hexec,
    hfailed⟩
  intro p hqueues
  rcases eq_or_ne p 1 with rfl | hne
  · exact hindex
  · have hactors : pauseAfterConnect.filterMap Event.actor = List.replicate 9 1 := rfl
    have hp : p ∉ pauseAfterConnect.filterMap Event.actor := by
      rw [hactors]
      exact fun hp => hne (List.eq_of_mem_replicate hp)
    rw [run_not_actor hrun hp] at hqueues
    cases hqueues

end Session
