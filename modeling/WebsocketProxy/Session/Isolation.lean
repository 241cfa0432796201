import WebsocketProxy.Server.Grants
import WebsocketProxy.Session.Basic

/-!
# Data is for those who asked for it

The data of a connection is broadcast to all clients, and a client passes on what has an id it
was told of. When the slots of requests are not reused while an open is pending, a client is
told of connections only whose url and key it asked for. So what it passes on is data of these.
-/

namespace WebsocketProxyClient

/-- The ids that a client knows of, or got data for. -/
def Knows (c : WebsocketProxyClient) (id : UInt64) : Prop :=
  id ∈ c.websockets ∨ ∃ data len remaining,
    .callback (.onWebsocketData id data len remaining) ∈ c.trace

/-- A client gets to know the ids that it is told of when it reads messages. -/
theorem Step.knows {c c' : WebsocketProxyClient} {ev : Event} {published : List Message}
    (h : Step c ev c' published) {id : UInt64} (hknows : c'.Knows id) :
  c.Knows id ∨ ∃ msg m, ev = .read (some msg) ∧ msg.data = .openWs m ∧ m.clientPid = c.pid ∧ m.id = id
  := by
  obtain ⟨seen, htrace, hsees⟩ := h.sees
  have hbefore : (id ∈ c'.websockets → id ∈ c.websockets) →
      (∀ data len remaining, .callback (.onWebsocketData id data len remaining) ∈ seen →
        id ∈ c.websockets) → c.Knows id := by
    intro hids hseen
    rcases hknows with hid | ⟨data, len, remaining, hdata⟩
    · apply Or.inl (hids hid)
    · rw [htrace] at hdata
      rcases List.mem_append.mp hdata with hdata | hdata
      · exact Or.inr ⟨data, len, remaining, hdata⟩
      · apply Or.inl (hseen data len remaining hdata)
  cases hsees with
  | nothing hids | returned _ hids | ignored _ _ hids | error _ _ _ hids =>
      left
      apply hbefore (hids id).mp
      simp
  | @opened msg m hev hmsg hpid hids =>
      rcases eq_or_ne id m.id with rfl | hne
      · exact Or.inr ⟨msg, m, hev, hmsg, hpid, rfl⟩
      · left
        apply hbefore
        · exact fun hid => ((hids id).mp hid).resolve_left hne
        · simp
  | closed _ _ _ hids =>
      left
      apply hbefore
      · exact fun hid => ((hids id).mp hid).2
      · simp
  | @data msg m _ _ hid hids =>
      left
      apply hbefore (hids id).mp
      intro data len remaining hdata
      simp only [List.mem_cons, Observation.callback.injEq, reduceCtorEq, false_or,
        List.not_mem_nil, or_false, WebsocketProxyCallback.onWebsocketData.injEq] at hdata
      rw [hdata.1]
      exact hid
  | disconnected _ _ _ hids =>
      left
      apply hbefore
      · exact fun hid => absurd hid (hids id)
      · simp [closes]

end WebsocketProxyClient

namespace Session

open WebsocketProxy (SlotsKept)

/-- The server of a session in which the slots are kept, and what it broadcasts. -/
theorem reachable_server {s : Session} (h : system.ReachableUnder (OnServer SlotsKept) s) :
  WebsocketProxy.system.ReachableUnder SlotsKept s.server ∧
    ∀ msg ∈ s.server.serverQueue, ∀ m, msg.data = .openWs m →
      s.server.Granted s.clientQueue m.clientPid m.id
  := by
  obtain ⟨_, es, ⟨pid, clock, names, rfl⟩, hrun⟩ := h
  obtain ⟨evs, hserver, -, hmessages⟩ := run_server hrun
  constructor
  · exact ⟨_, evs, ⟨pid, clock, rfl⟩, hserver⟩
  · intro msg hmsg m hm
    apply (WebsocketProxy.run_granted hserver hmsg hm).mono
    rw [hmessages]
    apply List.take_subset _ _

/-- What a client knows of was granted to it. -/
theorem reachable_knows {s : Session} (h : system.ReachableUnder (OnServer SlotsKept) s) :
  ∀ p id, (s.clients p).Knows id → s.server.Granted s.clientQueue p id
  := by
  apply h.invariant
  · rintro _ ⟨pid, clock, names, rfl⟩ p id (hid | ⟨data, len, remaining, hdata⟩)
    · exact absurd hid (AList.notMem_empty id)
    · cases hdata
  · intro s ev s' hreachable ih _ hstep p id hknows
    obtain ⟨hserver, hbroadcast⟩ := reachable_server hreachable
    cases ev with
    | server ev =>
        obtain ⟨-, px, hpx, rfl⟩ := step_server hstep
        exact (ih p id hknows).step hserver.reachable hpx
    | client q ev =>
        obtain ⟨hfinds, c, published, hc, rfl⟩ := step_client hstep
        have hqueue : s.clientQueue ⊆ s.clientQueue ++ published := List.subset_append_left _ _
        change (Function.update s.clients q c p).Knows id at hknows
        change s.server.Granted (s.clientQueue ++ published) p id
        rcases eq_or_ne p q with rfl | hne
        · rw [Function.update_self] at hknows
          rcases (WebsocketProxyClient.perform_step hc).knows hknows with
            hknows | ⟨msg, m, rfl, hmsg, hpid, rfl⟩
          · exact (ih p id hknows).mono hqueue
          · rw [(reachable_client hreachable.reachable p).2] at hpid
            rw [← hpid]
            apply (hbroadcast msg _ m hmsg).mono hqueue
            apply List.mem_of_getElem? hfinds.symm
        · rw [Function.update_of_ne hne] at hknows
          exact (ih p id hknows).mono hqueue

/-- Data is passed on to a client only for connections whose url and key the client asked for
itself. -/
theorem data_isolated {s : Session} (h : system.ReachableUnder (OnServer SlotsKept) s)
    {p id : UInt64} {data : Bytes} {len remaining : UInt32}
    (hdata : .callback (.onWebsocketData id data len remaining) ∈ (s.clients p).trace) :
  ∃ r, s.server.Constructed r ∧ (s.server.sockets r).id = id ∧
    (∀ r', s.server.Constructed r' → (s.server.sockets r').id = id → r' = r) ∧
    ∃ m ∈ s.clientQueue, ∃ req, m.pid = p ∧ m.data = .openWs req ∧
      req.key = (s.server.sockets r).key
  := by
  obtain ⟨hserver, -⟩ := reachable_server h
  have hnumbered := WebsocketProxy.reachable_numbered (fun _ _ hkept => hkept.2) hserver
  obtain ⟨r, hr, hid, hasked⟩ := reachable_knows h p id (Or.inr ⟨data, len, remaining, hdata⟩)
  use r, hr, hid
  constructor
  · intro r' hr' hid'
    apply hnumbered.id_inj (WebsocketProxy.reachable_wellFormed hserver) hr' hr
    rw [hid', hid]
  · exact hasked

/-- Two clients open connections of their own. The first gets data, which the second reads. -/
def openTwo : List Event :=
  .server .startHeartbeat :: Event.openWebSocketAsync 1 [104] 0 1 1000 ++
  Event.openWebSocketAsync 2 [105] 2 1 1000 ++ Event.opened 0 ++ [Event.received 0 [5]] ++
  [1, 2].flatMap fun p =>
    Event.round p 1000 (some (Event.wsOpen 1 70001)) ++
    Event.round p 1000 (some { pid := 7, data := .wsData ⟨70001, 1, 0, [5]⟩ })

theorem data_isolated_openTwo :
  ∃ s, system.RunUnder (OnServer SlotsKept) (start 7 (fun _ => 100000) (fun _ => [])) openTwo s ∧
    (s.clients 2).serverQueueIndex = 3 ∧
    .callback (.onWebsocketData 70001 [5] 1 0) ∈ (s.clients 1).trace ∧
    ∃ r, s.server.Constructed r ∧ (s.server.sockets r).id = 70001 ∧
      (∀ r', s.server.Constructed r' → (s.server.sockets r').id = 70001 → r' = r) ∧
      ∃ m ∈ s.clientQueue, ∃ req, m.pid = 1 ∧ m.data = .openWs req ∧
        req.key = (s.server.sockets r).key
  := by
  obtain ⟨s, hrun, hread, hdata⟩ : ∃ s, system.RunUnder (OnServer SlotsKept)
      (start 7 (fun _ => 100000) (fun _ => [])) openTwo s ∧ (s.clients 2).serverQueueIndex = 3 ∧
      .callback (.onWebsocketData 70001 [5] 1 0) ∈ (s.clients 1).trace :=
    TransitionSystem.exists_runUnder (by decide +kernel)
  use s, hrun, hread, hdata
  exact data_isolated ⟨_, _, ⟨7, _, _, rfl⟩, hrun⟩ hdata

end Session
